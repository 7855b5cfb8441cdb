import Landscape.LanDevice.Attributes

/-! Who holds an address, a name or a device id: the indexes know it in every state of the
directory. -/
namespace Landscape.LanDevice
open Index Function Option
open Dhcp4 (Ipv4Addr)
open Dhcp6 (Ipv6Addr)
open Route (MacAddr)

structure Owned (d : Directory) : Prop where
  ipv4 : ipv4Attr.Owned d
  ipv6 : ipv6Attr.Owned d
  hostname : hostnameAttr.Owned d
  deviceId : deviceIdAttr.Owned d

theorem Attr.owned_empty {K : Type} (a : Attr K) : a.Owned .empty := by
  rintro i k ⟨e,he,-⟩
  cases he

theorem owned_empty : Owned .empty :=
  ⟨ipv4Attr.owned_empty,ipv6Attr.owned_empty,hostnameAttr.owned_empty,deviceIdAttr.owned_empty⟩

def LanDeviceEntry.Sourced (e : LanDeviceEntry) : Prop := e.ipv4.isSome = e.ipv4Source.isSome

def Sourced (d : Directory) : Prop := ∀ i e, d.entries i = some e → e.Sourced

structure Sound (d : Directory) : Prop extends Owned d where
  sourced : Sourced d

variable (info : IPv4AssignInfo) (ip : Ipv4Addr)

section Step
variable {amb : Ambient} {d : Directory} {id : Uuid}

theorem Sourced.updateEntry (h : Sourced d) {f : LanDeviceEntry → LanDeviceEntry}
    (hf : ∀ e, e.Sourced → (f e).Sourced) : Sourced (d.updateEntry id f) := by
  intro i e he
  rcases Table.update_eq_some he with ⟨-,he⟩ | ⟨-,he⟩
  · obtain ⟨e',he',rfl⟩ := map_eq_some_iff.mp he
    exact hf e' (h id e' he')
  · exact h i e he

theorem Sourced.create (h : Sourced d) (mac : Option MacAddr) (now : Int) :
    Sourced { d with entries := update d.entries id (some (.new id mac now)) } := by
  intro i e he
  rcases Table.update_eq_some he with ⟨-,⟨⟩⟩ | ⟨-,he⟩
  · rfl
  · exact h i e he

theorem withoutIpv4_sourced {e : LanDeviceEntry} (h : e.Sourced) (ip : Ipv4Addr) :
    (e.withoutIpv4 ip).Sourced := by
  rw [LanDeviceEntry.withoutIpv4]
  split
  · rfl
  · exact h

theorem sourced_keptByIpv4 : KeptByAddr ipv4Table Sourced where
  entry _ _ ip h := h.updateEntry fun _ he => withoutIpv4_sourced he ip
  index _ _ h := h

theorem sourced_keptByIpv6 : KeptByAddr ipv6Table Sourced where
  entry _ _ _ h := h.updateEntry fun _ he => he
  index _ _ h := h

theorem sourced_keptByIdentity : KeptByIdentity Sourced where
  entry _ _ _ _ h := h.updateEntry fun _ he => he
  index _ _ h := h
  identity _ _ _ _ _ h := h.updateEntry fun _ he => he
  byDeviceId _ _ h := h

theorem enroll_sourced {e : LanDeviceEntry} (h : e.Sourced) (new : EnrolledDevice) :
    (e.enroll new).Sourced := by
  dsimp only [LanDeviceEntry.Sourced, LanDeviceEntry.enroll]
  split
  · rfl
  · split
    · rfl
    · exact h

theorem allocate_sourced {e : LanDeviceEntry} (h : e.Sourced) (now : Int) (info : IPv4AssignInfo)
    (take : Bool) : (e.allocate now info take).Sourced := by
  cases take with
  | false => exact h
  | true => rfl

theorem Sound.touch (h : Sound d) {f : LanDeviceEntry → LanDeviceEntry}
    (hf : ∀ e, (f e).ipv4 = e.ipv4 ∧ (f e).ipv6Addrs = e.ipv6Addrs ∧ (f e).hostname = e.hostname ∧
      (f e).deviceId = e.deviceId ∧ (f e).ipv4Source = e.ipv4Source) :
      Sound (d.updateEntry id f) where
  ipv4 := h.ipv4.updateEntry fun e _ _ hk => .inl ((hf e).1.symm.trans hk)
  ipv6 := h.ipv6.updateEntry fun e k _ hk => .inl ((hf e).2.1 ▸ hk : k ∈ e.ipv6Addrs)
  hostname := h.hostname.updateEntry fun e _ _ hk => .inl ((hf e).2.2.1.symm.trans hk)
  deviceId := h.deviceId.updateEntry fun e _ _ hk => .inl ((hf e).2.2.2.1.symm.trans hk)
  sourced := by
    refine h.sourced.updateEntry fun e he => ?_
    rwa [LanDeviceEntry.Sourced, (hf e).1, (hf e).2.2.2.2]

theorem Sound.create (h : Sound d) (mac : Option MacAddr) (now : Int) :
    Sound { d with entries := update d.entries id (some (.new id mac now)) } where
  ipv4 := h.ipv4.create nofun
  ipv6 := h.ipv6.create fun k hk => AList.notMem_empty k hk
  hostname := h.hostname.create nofun
  deviceId := h.deviceId.create nofun
  sourced := h.sourced.create mac now

theorem Sound.resolveOrCreateByMac (h : Sound d) (mac : MacAddr) :
    Sound (resolveOrCreateByMac amb d mac).2 := by
  rw [LanDevice.resolveOrCreateByMac]
  split
  · exact h
  · have hcreated : Sound { d with
        entries := update d.entries amb.newId (some (.new amb.newId (some mac) amb.now)) } :=
      h.create (some mac) amb.now
    exact ⟨⟨hcreated.ipv4,hcreated.ipv6,hcreated.hostname,hcreated.deviceId⟩,hcreated.sourced⟩

theorem resolveOrCreateByMac_byDeviceId (mac : MacAddr) :
    (resolveOrCreateByMac amb d mac).2.byDeviceId = d.byDeviceId := by
  rw [resolveOrCreateByMac]
  split <;> rfl

section
variable (h : Sound d)
include h

theorem Sound.claimIpv4 (source : AddressSourceV4) : Sound (claimIpv4 d id ip source).2 where
  ipv4 := ipv4_tabled.claim h.ipv4
  ipv6 := (ipv6_keptByIpv4.claim .refl ip _).owned h.ipv6
  hostname := (hostname_keptByIpv4.claim .refl ip _).owned h.hostname
  deviceId := (deviceId_keptByIpv4.claim .refl ip _).owned h.deviceId
  sourced := sourced_keptByIpv4.claim h.sourced ip _

theorem Sound.releaseIpv4 : Sound (releaseIpv4 d id ip) where
  ipv4 := ipv4_tabled.release h.ipv4
  ipv6 := (ipv6_keptByIpv4.release .refl ip).owned h.ipv6
  hostname := (hostname_keptByIpv4.release .refl ip).owned h.hostname
  deviceId := (deviceId_keptByIpv4.release .refl ip).owned h.deviceId
  sourced := sourced_keptByIpv4.release h.sourced ip

theorem Sound.releaseStaticIpv4 : Sound (releaseStaticIpv4 d id) where
  ipv4 := releaseStaticIpv4_owned h.ipv4
  ipv6 := (ipv6_keptByIpv4.releaseStatic .refl).owned h.ipv6
  hostname := (hostname_keptByIpv4.releaseStatic .refl).owned h.hostname
  deviceId := (deviceId_keptByIpv4.releaseStatic .refl).owned h.deviceId
  sourced := sourced_keptByIpv4.releaseStatic h.sourced

theorem Sound.claimIpv6 (ip : Ipv6Addr) (source : AddressSourceV6) :
    Sound (claimIpv6 d id ip source).2 where
  ipv4 := (ipv4_keptByIpv6.claim .refl ip _).owned h.ipv4
  ipv6 := ipv6_tabled.claim h.ipv6
  hostname := (hostname_keptByIpv6.claim .refl ip _).owned h.hostname
  deviceId := (deviceId_keptByIpv6.claim .refl ip _).owned h.deviceId
  sourced := sourced_keptByIpv6.claim h.sourced ip _

theorem Sound.dropAll (ips : List Ipv6Addr) : Sound (ips.foldl (dropIpv6 id) d) where
  ipv4 := (ipv4_keptByIpv6.dropAll .refl ips).owned h.ipv4
  ipv6 := dropAll_owned h.ipv6 ips
  hostname := (hostname_keptByIpv6.dropAll .refl ips).owned h.hostname
  deviceId := (deviceId_keptByIpv6.dropAll .refl ips).owned h.deviceId
  sourced := sourced_keptByIpv6.dropAll h.sourced ips

theorem Sound.claimHostname (name : Option String) (fromEnroll : Bool) :
    Sound (claimHostname d id name fromEnroll) where
  ipv4 := (ipv4_ofAddresses.keptByIdentity.claim .refl name fromEnroll).owned h.ipv4
  ipv6 := (ipv6_ofAddresses.keptByIdentity.claim .refl name fromEnroll).owned h.ipv6
  hostname := claimHostname_owned h.hostname
  deviceId := (deviceId_keptByHostname.claim .refl name fromEnroll).owned h.deviceId
  sourced := sourced_keptByIdentity.claim h.sourced name fromEnroll

theorem Sound.transferDeviceId {source target deviceId : Uuid}
    (hsource : (d.byDeviceId deviceId).filter (· ≠ target) = some source) :
    Sound (transferDeviceId d source target deviceId) where
  ipv4 :=
    (ipv4_ofAddresses.keptByIdentity.give (ipv4_ofAddresses.keptByIdentity.strip .refl _ _ _ _) _ _
      _ _).owned h.ipv4
  ipv6 :=
    (ipv6_ofAddresses.keptByIdentity.give (ipv6_ofAddresses.keptByIdentity.strip .refl _ _ _ _) _ _
      _ _).owned h.ipv6
  hostname := giveIdentity_hostname (stripIdentity_hostname h.hostname _ _ _ _) _ _ _ _ _
  deviceId := by
    obtain ⟨hstripped,hindex⟩ := stripIdentity_deviceId h.deviceId hsource
    exact giveIdentity_deviceId hstripped hindex _ _ _
  sourced := sourced_keptByIdentity.give (sourced_keptByIdentity.strip h.sourced _ _ _ _) _ _ _ _

end

theorem transferDeviceId_byDeviceId (h : deviceIdAttr.Owned d) {source target deviceId : Uuid}
    (hsource : (d.byDeviceId deviceId).filter (· ≠ target) = some source) :
    (transferDeviceId d source target deviceId).byDeviceId deviceId = some target := by
  obtain ⟨-,hindex⟩ := stripIdentity_deviceId h hsource
  refine Eq.trans ?_ hindex
  rw [transferDeviceId, giveIdentity_byDeviceId]

theorem Sound.setDeviceId (h : Sound d) (deviceId : Uuid) :
    Sound (setDeviceId amb d id deviceId) := by
  rw [LanDevice.setDeviceId]
  split
  · rename_i hnone
    refine ⟨⟨.updateEntry h.ipv4 fun _ _ _ hk => .inl hk,
      .updateEntry h.ipv6 fun _ _ _ hk => .inl hk,
      .updateEntry h.hostname fun _ _ _ hk => .inl hk,
      .updateEntry (h.deviceId.claimFree hnone) ?_⟩,.updateEntry h.sourced fun _ he => he⟩
    intro e k _ hk
    cases hk
    exact .inr (update_self ..)
  · rename_i hsource
    dsimp only
    split
    · exact h
    · exact h.transferDeviceId hsource

theorem Sound.bindDeviceId (h : Sound d) (deviceId : Option Uuid) :
    Sound (bindDeviceId amb d id deviceId) := by
  cases deviceId with
  | none => exact h
  | some deviceId => exact h.setDeviceId deviceId

/-- The entry an enrolment goes to is the only one that the device id may point to. -/
theorem Sound.resolveEnrolled (h : Sound d) (old : Option EnrolledDevice) (new : EnrolledDevice) :
    Sound (resolveEnrolled amb d old new).2 ∧
      ∀ j, (resolveEnrolled amb d old new).2.byDeviceId new.id = some j →
        j = (resolveEnrolled amb d old new).1 := by
  rw [LanDevice.resolveEnrolled]
  cases hholder : d.byDeviceId new.id with
  | some holder =>
    have hsame : ∀ j, d.byDeviceId new.id = some j → j = holder := by
      intro j hj
      rw [hholder] at hj
      exact (some.inj hj).symm
    cases d.byMac new.mac with
    | none => exact ⟨h,hsame⟩
    | some macEntry =>
      dsimp only
      split
      · rename_i hne
        split
        · exact ⟨h,hsame⟩
        · have hsource : (d.byDeviceId new.id).filter (· ≠ macEntry) = some holder := by
            rw [hholder, filter_some, if_pos (decide_eq_true hne)]
          refine ⟨h.transferDeviceId hsource,?_⟩
          intro j hj
          rw [transferDeviceId_byDeviceId h.deviceId hsource] at hj
          exact (some.inj hj).symm
      · exact ⟨h,hsame⟩
  | none =>
    have hfree : ∀ {i} j, d.byDeviceId new.id = some j → j = i := by
      intro i j hj
      rw [hholder] at hj
      cases hj
    cases d.byMac new.mac with
    | some macEntry => exact ⟨h,hfree⟩
    | none =>
      dsimp only
      split
      · exact ⟨h,hfree⟩
      · refine ⟨(h.resolveOrCreateByMac new.mac).touch fun _ => ⟨rfl,rfl,rfl,rfl,rfl⟩,?_⟩
        intro j hj
        change (LanDevice.resolveOrCreateByMac amb d new.mac).2.byDeviceId new.id = some j at hj
        rw [resolveOrCreateByMac_byDeviceId] at hj
        exact hfree j hj

theorem Sound.anchor (h : Sound d) {old : Option EnrolledDevice} {new : EnrolledDevice}
    (hid : ∀ j, d.byDeviceId new.id = some j → j = id) : Sound (anchor d id old new) where
  ipv4 := h.ipv4
  ipv6 := h.ipv6
  hostname := h.hostname
  sourced := h.sourced
  deviceId := by
    refine h.deviceId.claimFree ?_
    apply filter_eq_none_iff.mpr
    intro j hj
    have hji := hid j hj
    simp [hji]

theorem enroll_ipv4 {e : LanDeviceEntry} {new : EnrolledDevice} {ip : Ipv4Addr}
    (h : (e.enroll new).ipv4 = some ip) : e.ipv4 = some ip ∨ new.ipv4 = some ip := by
  dsimp only [LanDeviceEntry.enroll] at h
  split at h
  · rename_i hnew
    exact .inr (hnew.trans h)
  · split at h
    · cases h
    · exact .inl h

theorem claimIpv4_static : (claimIpv4 d id ip .static).1 = true := by
  change (claimAddr d id ipv4Table ip 0).1 = true
  rcases h : (ipv4Table.index d ip).filter (· ≠ id) with - | owner
  · rw [claimAddr_of_none h]
  · rw [claimAddr_of_some h, if_neg (Nat.not_lt_zero _)]

theorem Sound.claimEnrolledIpv4 (h : Sound d) (ip : Option Ipv4Addr) :
    Sound (claimEnrolledIpv4 d id ip) := by
  cases ip with
  | none => exact h.releaseStaticIpv4
  | some ip => exact h.claimIpv4 ip .static

theorem Sound.writeEnrolled (h : Sound d) {new : EnrolledDevice}
    (hid : d.byDeviceId new.id = some id) : Sound (writeEnrolled amb d id new) := by
  let d₁ := LanDevice.claimEnrolledIpv4 d id new.ipv4
  let d₂ := LanDevice.claimHostname d₁ id (new.hostname.bind amb.domainToAscii) new.hostname.isSome
  have hsound : Sound d₂ := (h.claimEnrolledIpv4 new.ipv4).claimHostname _ _
  -- The name changes neither of the two indexes that the new fields are checked against.
  have hip : ∀ ip, new.ipv4 = some ip → d₂.byIpv4 ip = some id := by
    intro ip hip
    have hframe : ipv4Attr.Frame d₁ d₂ := ipv4_ofAddresses.keptByIdentity.claim .refl _ _
    refine (congrFun hframe.index ip).trans ?_
    change (LanDevice.claimEnrolledIpv4 d id new.ipv4).byIpv4 ip = some id
    rw [hip]
    exact claimAddr_index (claimIpv4_static ip)
  have hid₂ : d₂.byDeviceId new.id = some id := by
    have hframe₁ : deviceIdAttr.Frame d d₁ := deviceId_keptByIpv4.claimEnrolled .refl _
    have hframe₂ : deviceIdAttr.Frame d₁ d₂ := deviceId_keptByHostname.claim .refl _ _
    exact (congrFun (hframe₂.index.trans hframe₁.index) new.id).trans hid
  refine ⟨⟨hsound.ipv4.updateEntry ?_,hsound.ipv6.updateEntry fun _ _ _ hk => .inl hk,
    hsound.hostname.updateEntry fun _ _ _ hk => .inl hk,hsound.deviceId.updateEntry ?_⟩,
    hsound.sourced.updateEntry fun _ he => enroll_sourced he new⟩
  · intro e ip _ hk
    obtain hold | hnew := enroll_ipv4 hk
    · exact .inl hold
    · exact .inr (hip ip hnew)
  · intro e k _ hk
    cases hk
    exact .inr hid₂

theorem releaseEnrolled_owned_ipv4 (h : ipv4Attr.Owned d) :
    ipv4Attr.Owned (releaseEnrolled d id) := by
  have hname : ipv4Attr.Owned (LanDevice.claimHostname d id none false) :=
    (ipv4_ofAddresses.keptByIdentity.claim .refl none false).owned h
  exact (ipv4_keptByIpv6.dropAll .refl _).owned (releaseStaticIpv4_owned hname)

theorem releaseEnrolled_owned_ipv6 (h : ipv6Attr.Owned d) :
    ipv6Attr.Owned (releaseEnrolled d id) := by
  have hname : ipv6Attr.Owned (LanDevice.claimHostname d id none false) :=
    (ipv6_ofAddresses.keptByIdentity.claim .refl none false).owned h
  exact dropAll_owned ((ipv6_keptByIpv4.releaseStatic .refl).owned hname) _

theorem releaseEnrolled_owned_hostname (h : hostnameAttr.Owned d) :
    hostnameAttr.Owned (releaseEnrolled d id) := by
  have hname : hostnameAttr.Owned (LanDevice.claimHostname d id none false) :=
    claimHostname_owned h
  exact (hostname_keptByIpv6.dropAll .refl _).owned
    ((hostname_keptByIpv4.releaseStatic .refl).owned hname)

theorem releaseEnrolled_frame_deviceId : deviceIdAttr.Frame d (releaseEnrolled d id) :=
  deviceId_keptByIpv6.dropAll
    (deviceId_keptByIpv4.releaseStatic (deviceId_keptByHostname.claim .refl none false)) _

theorem forgetEnrolled_deviceId (h : deviceIdAttr.Owned d) (deviceId : Uuid) :
    deviceIdAttr.Owned (forgetEnrolled d id deviceId) := by
  have hframe : deviceIdAttr.Frame { d with byDeviceId := removeIf d.byDeviceId deviceId id }
      (releaseEnrolled { d with byDeviceId := removeIf d.byDeviceId deviceId id } id) :=
    releaseEnrolled_frame_deviceId
  rw [forgetEnrolled]
  intro i k hk
  rw [index_updateEntry, hframe.index]
  obtain ⟨hne,hold⟩ | ⟨-,e,-,hk⟩ := holds_updateEntry hk
  · exact removeIf_of_ne (h i k (hframe.held i k hold)) fun heq => absurd heq hne
  · cases hk

section
variable (h : Sound d)
include h

theorem Sound.forgetEnrolled (deviceId : Uuid) : Sound (forgetEnrolled d id deviceId) := by
  refine ⟨⟨?_,?_,?_,forgetEnrolled_deviceId h.deviceId deviceId⟩,?_⟩
  · refine .updateEntry (releaseEnrolled_owned_ipv4 ?_) fun _ _ _ hk => .inl hk
    exact h.ipv4
  · refine .updateEntry (releaseEnrolled_owned_ipv6 ?_) fun _ _ _ hk => .inl hk
    exact h.ipv6
  · refine .updateEntry (releaseEnrolled_owned_hostname ?_) fun _ _ _ hk => .inl hk
    exact h.hostname
  · refine .updateEntry (sourced_keptByIpv6.dropAll ?_ _) fun _ he => he
    refine sourced_keptByIpv4.releaseStatic (sourced_keptByIdentity.claim ?_ none false)
    exact h.sourced

theorem Sound.applyDeviceEvent (event : EnrolledDeviceEvent) :
    Sound (applyDeviceEvent amb d event) := by
  cases event with
  | updated old new =>
    obtain ⟨hresolved,hid⟩ : Sound (LanDevice.resolveEnrolled amb d old new).2 ∧ _ :=
      h.resolveEnrolled old new
    exact (hresolved.anchor hid).writeEnrolled (update_self ..)
  | deleted old =>
    rw [LanDevice.applyDeviceEvent]
    split
    · exact h.forgetEnrolled old.id
    · exact h

theorem Sound.allocate {info : IPv4AssignInfo} {take : Bool} {now : Int}
    (htake : take = true → d.byIpv4 info.ip = some id) :
    Sound (d.updateEntry id (·.allocate now info take)) := by
  refine ⟨⟨h.ipv4.updateEntry ?_,h.ipv6.updateEntry fun _ _ _ hk => .inl hk,
    h.hostname.updateEntry fun _ _ _ hk => .inl hk,h.deviceId.updateEntry fun _ _ _ hk => .inl hk⟩,
    h.sourced.updateEntry fun _ he => allocate_sourced he now info take⟩
  intro e ip _ hk
  dsimp only [ipv4Attr, LanDeviceEntry.allocate] at hk
  split at hk
  · rename_i ht
    cases hk
    exact .inr (htake ht)
  · exact .inl hk

theorem Sound.recordLease : Sound (recordLease amb d id info) := by
  rw [LanDevice.recordLease]
  split
  · exact h.touch fun _ => ⟨rfl,rfl,rfl,rfl,rfl⟩
  · refine (h.claimIpv4 info.ip .lease).allocate ?_
    intro ht
    exact claimAddr_index (Bool.and_eq_true_iff.mp ht).1

theorem Sound.allocateIpv4 : Sound (allocateIpv4 amb d id info) := by
  have hbound : Sound (LanDevice.bindDeviceId amb d id info.deviceId) :=
    h.bindDeviceId info.deviceId
  rw [LanDevice.allocateIpv4]
  split
  · exact (hbound.recordLease info).claimHostname _ false
  · exact hbound.recordLease info

theorem Sound.expireIpv4 : Sound (expireIpv4 amb d id info) := by
  have hreleased : Sound (LanDevice.releaseIpv4 d id info.ip) := h.releaseIpv4 info.ip
  refine .touch ?_ fun _ => ⟨rfl,rfl,rfl,rfl,rfl⟩
  cases info.hostname.bind amb.domainToAscii with
  | none => exact hreleased
  | some name =>
    rw [expireHostname]
    split
    · exact hreleased.claimHostname none false
    · exact hreleased

theorem Sound.applyIpv4Event (event : IPv4AssignEvent) : Sound (applyIpv4Event amb d event) := by
  cases event with
  | allocated info => exact (h.resolveOrCreateByMac info.mac).allocateIpv4 info
  | expired info =>
    rw [LanDevice.applyIpv4Event]
    split
    · exact h.expireIpv4 info
    · exact h

theorem Sound.observeIpv6 (ip : Ipv6Addr) (source : AddressSourceV6) :
    Sound (observeIpv6 d id ip source) := by
  have hclaimed : Sound (LanDevice.claimIpv6 d id ip source).2 := h.claimIpv6 ip source
  rw [LanDevice.observeIpv6]
  split
  · rename_i hok
    refine ⟨⟨hclaimed.ipv4.updateEntry fun _ _ _ hk => .inl hk,hclaimed.ipv6.updateEntry ?_,
      hclaimed.hostname.updateEntry fun _ _ _ hk => .inl hk,
      hclaimed.deviceId.updateEntry fun _ _ _ hk => .inl hk⟩,hclaimed.sourced.updateEntry
        fun _ he => he⟩
    intro e k _ hk
    obtain heq | hold := AList.mem_insert _ |>.mp hk
    · subst heq
      exact .inr (claimAddr_index hok)
    · exact .inl hold
  · exact hclaimed

theorem Sound.observeAll (suffix : Option (BitVec 64)) (ips : List Ipv6AssignAddress) :
    Sound (observeAll d id suffix ips) := by
  induction ips generalizing d with
  | nil => exact h
  | cons addr ips ih => exact ih (h.observeIpv6 addr.ip _)

theorem Sound.clearIpv6 : Sound (clearIpv6 d id) where
  ipv4 := .updateEntry h.ipv4 fun _ _ _ hk => .inl hk
  ipv6 := clearIpv6_owned h.ipv6
  hostname := .updateEntry h.hostname fun _ _ _ hk => .inl hk
  deviceId := .updateEntry h.deviceId fun _ _ _ hk => .inl hk
  sourced := .updateEntry h.sourced fun _ he => he

theorem Sound.applyIpv6Event (event : IPv6AssignEvent) : Sound (applyIpv6Event amb d event) := by
  cases event with
  | allocated info =>
    refine .touch (.observeAll ?_ _ info.ips) fun _ => ⟨rfl,rfl,rfl,rfl,rfl⟩
    exact (h.resolveOrCreateByMac info.mac).bindDeviceId info.deviceId
  | expired info =>
    rw [LanDevice.applyIpv6Event]
    split
    · exact h.dropAll _
    · exact h
  | flush info =>
    refine .touch (.observeAll (.clearIpv6 ?_) _ info.ips) fun _ => ⟨rfl,rfl,rfl,rfl,rfl⟩
    exact (h.resolveOrCreateByMac info.mac).bindDeviceId info.deviceId

theorem Sound.observeIpv4 : Sound (observeIpv4 d id ip) := by
  have hclaimed : Sound (LanDevice.claimIpv4 d id ip .arp).2 := h.claimIpv4 ip .arp
  rw [LanDevice.observeIpv4]
  split
  · dsimp only
    split
    · rename_i hok
      refine ⟨⟨hclaimed.ipv4.updateEntry ?_,hclaimed.ipv6.updateEntry fun _ _ _ hk => .inl hk,
        hclaimed.hostname.updateEntry fun _ _ _ hk => .inl hk,
        hclaimed.deviceId.updateEntry fun _ _ _ hk => .inl hk⟩,hclaimed.sourced.updateEntry
          fun _ _ => rfl⟩
      intro e k _ hk
      cases hk
      exact .inr (claimAddr_index hok)
    · exact hclaimed
  · exact h

theorem Sound.resolveObserved (event : LanDiscoveryEvent) :
    Sound (resolveObserved amb d event).2 := by
  rw [LanDevice.resolveObserved]
  split
  · exact h.resolveOrCreateByMac _
  · split
    · exact h
    · exact h.create none amb.now

theorem Sound.observe (ip : IpAddr) : Sound (observe d id ip) := by
  cases ip with
  | v4 ip => exact h.observeIpv4 ip
  | v6 ip =>
    rw [LanDevice.observe]
    split
    · exact h
    · exact h.observeIpv6 ip .slaac

theorem Sound.applyDiscoveryEvent (event : LanDiscoveryEvent) :
    Sound (applyDiscoveryEvent amb d event) := by
  have hresolved : Sound (LanDevice.resolveObserved amb d event).2 := h.resolveObserved event
  have hobserved : Sound (LanDevice.observe (LanDevice.resolveObserved amb d event).2
      (LanDevice.resolveObserved amb d event).1 event.ip) := hresolved.observe event.ip
  refine .touch ?_ fun _ => ⟨rfl,rfl,rfl,rfl,rfl⟩
  split
  · exact hobserved.touch fun _ => ⟨rfl,rfl,rfl,rfl,rfl⟩
  · exact hobserved

end

theorem Attr.Owned.sweep {K : Type} {a : Attr K} (h : a.Owned d) {now : Int}
    (hindex : a.index (sweepExpired d now) = retain (a.index d) fun id => (d.entries id).all
      (·.keep now)) :
    a.Owned (sweepExpired d now) := by
  intro i k hk
  rw [hindex]
  refine Indexed.retain h ?_ i k hk
  rintro i k ⟨e,he,hk⟩
  obtain ⟨hold,hkeep⟩ := filter_eq_some_iff.mp he
  refine ⟨⟨e,hold,hk⟩,?_⟩
  rw [hold]
  exact hkeep

theorem Sound.apply (h : Sound d) (event : Ambient × Event) : Sound (apply d event) := by
  obtain ⟨amb,event⟩ := event
  cases event with
  | device event => exact h.applyDeviceEvent event
  | ipv4 event => exact h.applyIpv4Event event
  | ipv6 event => exact h.applyIpv6Event event
  | discovery event => exact h.applyDiscoveryEvent event
  | sweep =>
    exact ⟨⟨h.ipv4.sweep rfl,h.ipv6.sweep rfl,h.hostname.sweep rfl,h.deviceId.sweep rfl⟩,
      fun i e he => h.sourced i e (filter_eq_some_iff.mp he).1⟩

end Step

theorem sound_run (events : List (Ambient × Event)) : Sound (run events) := by
  suffices h : ∀ d, Sound d → Sound (events.foldl apply d) from
    h .empty ⟨owned_empty,fun _ _ he => by cases he⟩
  induction events with
  | nil => exact fun _ h => h
  | cons event events ih => exact fun d h => ih _ (h.apply event)

/-- After any series of events every address, name and device id that an entry holds leads to that
entry, so no two entries share one. -/
theorem run_unique_owners (events : List (Ambient × Event)) :
    (∀ i j e e', (run events).entries i = some e → (run events).entries j = some e' →
      (∀ ip, e.ipv4 = some ip → e'.ipv4 = some ip → i = j) ∧
      (∀ ip, ip ∈ e.ipv6Addrs → ip ∈ e'.ipv6Addrs → i = j) ∧
      (∀ name, e.hostname = some name → e'.hostname = some name → i = j) ∧
      (∀ device, e.deviceId = some device → e'.deviceId = some device → i = j)) ∧
    ∀ i e, (run events).entries i = some e →
      (∀ ip, e.ipv4 = some ip → (run events).byIpv4 ip = some i) ∧
      (∀ ip, ip ∈ e.ipv6Addrs → (run events).byIpv6 ip = some i) ∧
      (∀ name, e.hostname = some name → (run events).byHostname name = some i) ∧
      (∀ device, e.deviceId = some device → (run events).byDeviceId device = some i) := by
  have h := sound_run events
  refine ⟨?_,?_⟩
  · intro i j e e' he he'
    exact ⟨fun _ hk hk' => h.ipv4.unique ⟨e,he,hk⟩ ⟨e',he',hk'⟩,
      fun _ hk hk' => h.ipv6.unique ⟨e,he,hk⟩ ⟨e',he',hk'⟩,
      fun _ hk hk' => h.hostname.unique ⟨e,he,hk⟩ ⟨e',he',hk'⟩,
      fun _ hk hk' => h.deviceId.unique ⟨e,he,hk⟩ ⟨e',he',hk'⟩⟩
  · intro i e he
    exact ⟨fun ip hk => h.ipv4 i ip ⟨e,he,hk⟩,fun ip hk => h.ipv6 i ip ⟨e,he,hk⟩,
      fun name hk => h.hostname i name ⟨e,he,hk⟩,fun device hk => h.deviceId i device ⟨e,he,hk⟩⟩

end Landscape.LanDevice
