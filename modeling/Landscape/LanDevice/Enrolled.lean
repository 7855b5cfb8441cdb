import Landscape.LanDevice.Attributes

/-! Names and addresses that come with an enrolment, under what is observed at run time. -/
namespace Landscape.LanDevice
open Function Option
open Dhcp4 (Ipv4Addr)
open Dhcp6 (Ipv6Addr)
open Route (MacAddr)

def enrolledNameAttr : Attr String :=
  ⟨fun e name => e.hostname = some name ∧
    e.hostnameFromEnroll = true,(·.byHostname),hostnameAttr.index_entries⟩

def staticIpv4Attr : Attr Ipv4Addr :=
  ⟨fun e ip => e.ipv4 = some ip ∧ e.ipv4Source = some .static,(·.byIpv4),ipv4Attr.index_entries⟩

def Attr.Kept {K : Type} (a : Attr K) (d d' : Directory) : Prop :=
  ∀ i k, d.holds a i k → d'.holds a i k

variable (name : Option String) (amb : Ambient) (info : IPv4AssignInfo) (d : Directory)

/-- Enrolled names stay, marked as such, and so do fixed addresses. -/
def KeepsEnrolled (d' : Directory) : Prop := enrolledNameAttr.Kept d d' ∧ staticIpv4Attr.Kept d d'

inductive Observation where
  | ipv4 (event : IPv4AssignEvent)
  | ipv6 (event : IPv6AssignEvent)
  | discovery (event : LanDiscoveryEvent)

def Observation.event : Observation → Event
  | .ipv4 event => .ipv4 event
  | .ipv6 event => .ipv6 event
  | .discovery event => .discovery event

/- The device id is on another entry, which has been idle for long. -/
def ReanchorsId (mac : MacAddr) (deviceId : Option Uuid) : Prop :=
  ∃ device previous, deviceId = some device ∧
    ((resolveOrCreateByMac amb d mac).2.byDeviceId device).filter
      (· ≠ (resolveOrCreateByMac amb d mac).1) =
      some previous ∧
    deviceIdReanchorIdleMs ≤
      amb.now - ((resolveOrCreateByMac amb d mac).2.entries previous).elim 0 (·.lastActive)

def Observation.Reanchors : Observation → Prop
  | .ipv4 (.allocated info) => ReanchorsId amb d info.mac info.deviceId
  | .ipv6 (.allocated info) | .ipv6 (.flush info) => ReanchorsId amb d info.mac info.deviceId
  | _ => False

/-- A lease brings no name to an entry with an enrolled one but one that is indexed under that
entry, and the lease that expires is not for the entry's fixed address and not under its enrolled
name. -/
def Observation.Harmless : Observation → Prop
  | .ipv4 (.allocated info) => ∀ i old new, d.byMac info.mac = some i →
      d.holds enrolledNameAttr i old →
      info.hostname.bind amb.domainToAscii = some new → d.byHostname new = some i
  | .ipv4 (.expired info) => ∀ i, d.byMac info.mac = some i → ¬d.holds staticIpv4Attr i info.ip ∧
      ∀ name, d.holds enrolledNameAttr i name → info.hostname.bind amb.domainToAscii ≠ some name
  | _ => True

section Kept
variable {K : Type} {a : Attr K} {d d' d₀ : Directory} {id : Uuid}
  {f : LanDeviceEntry → LanDeviceEntry}

theorem Attr.Kept.refl : a.Kept d d := fun _ _ h => h

section
variable (h : a.Kept d₀ d)
include h

theorem Attr.Kept.trans (h' : a.Kept d d') : a.Kept d₀ d' := fun i k hk => h' i k (h i k hk)

theorem Attr.Kept.updateEntry (hf : ∀ e k, d.entries id = some e → a.has e k → a.has (f e) k) :
    a.Kept d₀ (d.updateEntry id f) := by
  intro i k hold
  obtain ⟨e,he,hk⟩ := h i k hold
  by_cases hi : i = id
  · subst hi
    refine ⟨f e,?_,hf e k he hk⟩
    change update d.entries i ((d.entries i).map f) i = some (f e)
    rw [update_self, he]
    rfl
  · refine ⟨e,?_,hk⟩
    change update d.entries id ((d.entries id).map f) i = some e
    rw [update_of_ne hi, he]

theorem Attr.Kept.updateOther (hnone : ∀ k, ¬d₀.holds a id k) : a.Kept d₀ (d.updateEntry id f) := by
  intro i k hold
  obtain ⟨e,he,hk⟩ := h i k hold
  refine ⟨e,?_,hk⟩
  change update d.entries id ((d.entries id).map f) i = some e
  rw [update_of_ne, he]
  rintro rfl
  exact hnone k hold

theorem Attr.Kept.create (hfree : d.entries id = none) (e : LanDeviceEntry) :
    a.Kept d₀ { d with entries := update d.entries id (some e) } := by
  intro i k hold
  obtain ⟨e',he',hk⟩ := h i k hold
  refine ⟨e',?_,hk⟩
  change update d.entries id (some e) i = some e'
  rw [update_of_ne, he']
  rintro rfl
  rw [hfree] at he'
  cases he'

theorem Attr.Kept.index (hentries : d'.entries = d.entries) : a.Kept d₀ d' := by
  intro i k hold
  obtain ⟨e,he,hk⟩ := h i k hold
  exact ⟨e,hentries ▸ he,hk⟩

end

def Attr.SameHolders (a : Attr K) (d d' : Directory) : Prop := ∀ i k, d.holds a i k ↔ d'.holds a i k

theorem Attr.SameHolders.index (h : a.SameHolders d₀ d) (hentries : d'.entries = d.entries) :
    a.SameHolders d₀ d' := by
  intro i k
  rw [h i k]
  unfold Directory.holds
  rw [hentries]

theorem Attr.SameHolders.updateEntry (h : a.SameHolders d₀ d)
    (hf : ∀ e k, a.has (f e) k ↔ a.has e k) :
    a.SameHolders d₀ (d.updateEntry id f) := by
  intro i k
  rw [h i k]
  constructor
  · exact Attr.Kept.refl.updateEntry (fun e k _ hk => (hf e k).mpr hk) i k
  · exact Attr.Sheds.holds fun e k hk => (hf e k).mp hk

theorem Attr.SameHolders.kept_iff {d₁ d₂ : Directory} (h : a.SameHolders d d₁)
    (h' : a.SameHolders d₂ d') :
    a.Kept d d' ↔ a.Kept d₁ d₂ := by
  unfold Attr.Kept
  simp only [h _ _, h' _ _]

theorem kept_resolveOrCreateByMac {amb : Ambient} (hfresh : d.entries amb.newId = none)
    (mac : MacAddr) :
    a.Kept d (resolveOrCreateByMac amb d mac).2 := by
  unfold resolveOrCreateByMac
  split
  · exact .refl
  · exact (Attr.Kept.refl.create hfresh _).index rfl

end Kept

section Operations
variable {d d₀ : Directory} {id : Uuid}

theorem enrolledName_keptByIpv4 : KeptByAddr ipv4Table (enrolledNameAttr.Kept d₀) where
  entry d id ip h := by
    refine h.updateEntry ?_
    intro e k _ hk
    dsimp only [ipv4Table, LanDeviceEntry.withoutIpv4]
    split <;> exact hk
  index _ _ h := h.index rfl

theorem enrolledName_keptByIpv6 : KeptByAddr ipv6Table (enrolledNameAttr.Kept d₀) where
  entry _ _ _ h := h.updateEntry fun _ _ _ hk => hk
  index _ _ h := h.index rfl

theorem staticIpv4_keptByIpv6 : KeptByAddr ipv6Table (staticIpv4Attr.Kept d₀) where
  entry _ _ _ h := h.updateEntry fun _ _ _ hk => hk
  index _ _ h := h.index rfl

theorem staticIpv4_keptByHostname : KeptByHostname (staticIpv4Attr.Kept d₀) where
  entry _ _ _ _ h := h.updateEntry fun _ _ _ hk => hk
  index _ _ h := h.index rfl

theorem KeepsEnrolled.updateEntry (h : KeepsEnrolled d₀ d) {f : LanDeviceEntry → LanDeviceEntry}
    (hname : ∀ e, enrolledNameAttr.has (f e) = enrolledNameAttr.has e)
    (hip : ∀ e, staticIpv4Attr.has (f e) = staticIpv4Attr.has e) :
    KeepsEnrolled d₀ (d.updateEntry id f) :=
  ⟨h.1.updateEntry fun e _ _ hk => hname e ▸ hk,h.2.updateEntry fun e _ _ hk => hip e ▸ hk⟩

theorem KeepsEnrolled.index (h : KeepsEnrolled d₀ d) {d' : Directory}
    (hentries : d'.entries = d.entries) :
    KeepsEnrolled d₀ d' := ⟨h.1.index hentries,h.2.index hentries⟩

/-- Where no id moves off another entry, the directory stays or the id is new to the entry. -/
theorem bindDeviceId_cases {amb : Ambient} {deviceId : Option Uuid}
    (hanchor : ¬∃ device previous, deviceId = some device ∧ (d.byDeviceId device).filter (· ≠ id) =
      some previous ∧
      deviceIdReanchorIdleMs ≤ amb.now - (d.entries previous).elim 0 (·.lastActive)) :
    bindDeviceId amb d id deviceId = d ∨ ∃ device, bindDeviceId amb d id deviceId =
      { d with byDeviceId := update d.byDeviceId device (some id) }.updateEntry id
        fun e => { e with deviceId := some device } := by
  cases deviceId with
  | none => exact .inl rfl
  | some device =>
    dsimp only [bindDeviceId, setDeviceId]
    split
    · exact .inr ⟨device,rfl⟩
    · rename_i previous hprevious
      refine .inl (if_pos (Int.not_le.mp fun hidle => ?_))
      exact hanchor ⟨device,previous,rfl,hprevious,hidle⟩

theorem staticIpv4_kept_claim {source : AddressSourceV4} (hsource : source ≠ .static)
    (ip : Ipv4Addr) :
    staticIpv4Attr.Kept d (claimIpv4 d id ip source).2 := by
  have hrank : 0 < source.rank := by
    cases source with
    | static => exact absurd rfl hsource
    | lease => decide
    | arp => decide
  rcases claimAddr_cases d id ipv4Table ip source.rank with heq | ⟨-,heq⟩ | ⟨owner,-,hle,heq⟩ <;>
    rw [claimIpv4, heq]
  · exact .refl
  · exact Attr.Kept.refl.index rfl
  · refine (Attr.Kept.refl.updateEntry ?_).index rfl
    intro e k he hk
    change source.rank ≤ ((d.entries owner).bind (·.ipv4Source)).elim 255 (·.rank) at hle
    rw [he, bind_some, hk.2] at hle
    exact absurd hrank (Nat.not_lt.mpr hle)

theorem currentIpv4_of_static {ip : Ipv4Addr} (h : d.holds staticIpv4Attr id ip) :
    currentIpv4 d id = some (ip, .static) := by
  obtain ⟨e,he,hip,hsource⟩ := h
  unfold currentIpv4
  rw [he, bind_some, hip, bind_some, hsource, map_some]

/-- A lease takes the place of no fixed address, be it for the same address or for another one. -/
theorem staticIpv4_kept_recordLease : staticIpv4Attr.Kept d (recordLease amb d id info) := by
  have hclaimed : staticIpv4Attr.Kept d (claimIpv4 d id info.ip .lease).2 :=
    staticIpv4_kept_claim (by decide) info.ip
  unfold recordLease
  dsimp only
  split
  · exact Attr.Kept.refl.updateEntry fun _ _ _ hk => hk
  · rename_i hconflict
    by_cases hstatic : ∃ ip, d.holds staticIpv4Attr id ip
    · obtain ⟨ip,hstatic⟩ := hstatic
      rw [currentIpv4_of_static hstatic] at hconflict ⊢
      have hsame : ip = info.ip := by
        simpa using hconflict
      have htake : ((claimIpv4 d id info.ip .lease).1 &&
          !(some (ip, AddressSourceV4.static)).any fun c => decide (c.2 = .static ∧
            c.1 = info.ip)) = false := by
        simp [hsame]
      rw [htake]
      exact hclaimed.updateEntry fun _ _ _ hk => hk
    · exact hclaimed.updateOther fun ip hip => hstatic ⟨ip,hip⟩

theorem enrolledName_kept_recordLease : enrolledNameAttr.Kept d (recordLease amb d id info) := by
  unfold recordLease
  dsimp only
  split
  · exact Attr.Kept.refl.updateEntry fun _ _ _ hk => hk
  · exact (enrolledName_keptByIpv4.claim .refl info.ip _).updateEntry fun _ _ _ hk => hk

theorem enrolledName_frame_recordLease : enrolledNameAttr.Frame d (recordLease amb d id info) := by
  have hipv4 : KeptByAddr ipv4Table (enrolledNameAttr.Frame d) :=
    Attr.keptByIpv4 (fun _ _ hk => hk) fun _ _ => rfl
  unfold recordLease
  dsimp only
  split
  · exact Attr.Frame.refl.updateEntry fun _ _ hk => hk
  · exact (hipv4.claim .refl info.ip _).updateEntry fun _ _ hk => hk

theorem enrolledName_frame_resolve (mac : MacAddr) :
    enrolledNameAttr.Frame d (resolveOrCreateByMac amb d mac).2 := by
  unfold resolveOrCreateByMac
  split
  · exact .refl
  · refine ⟨rfl,?_⟩
    rintro i k ⟨e,he,hk⟩
    rcases Table.update_eq_some he with ⟨-,⟨⟩⟩ | ⟨-,he⟩
    · cases hk.1
    · exact ⟨e,he,hk⟩

theorem Attr.Frame.trans {K : Type} {a : Attr K} {d₁ d₂ : Directory} (h : a.Frame d d₁)
    (h' : a.Frame d₁ d₂) :
    a.Frame d d₂ :=
  ⟨h'.index.trans h.index,fun i k hk => h.held i k (h'.held i k hk)⟩

theorem dropHostnameIndex_entries : (dropHostnameIndex d id name).entries = d.entries := by
  cases name with
  | none => rfl
  | some name => rfl

theorem enrolledName_kept_take (hfree : ∀ old, ¬d.holds enrolledNameAttr id old) (name : String)
    (owner : Option Uuid) :
    enrolledNameAttr.Kept d (takeHostname d id name owner false) := by
  unfold takeHostname
  split
  · exact (Attr.Kept.refl.index rfl).updateOther hfree
  · rename_i owner _
    dsimp only
    split
    · exact Attr.Kept.refl.updateOther hfree
    · rename_i hlearned
      have howner : ∀ old, ¬d.holds enrolledNameAttr owner old := by
        rintro old ⟨e,he,-,hflag⟩
        rw [he] at hlearned
        exact hlearned ⟨hflag,Bool.false_ne_true⟩
      exact ((Attr.Kept.refl.updateOther howner).index rfl).updateOther hfree

theorem not_enrolledName_of_withHostname {name : Option String} {old : String} :
    ¬(d.updateEntry id (·.withHostname name false)).holds enrolledNameAttr id old := by
  intro hold
  obtain ⟨hne,-⟩ | ⟨-,e,-,-,hflag⟩ := holds_updateEntry hold
  · exact hne rfl
  · cases hflag

theorem not_enrolledName_take (name : String) (owner : Option Uuid) (old : String) :
    ¬(takeHostname d id name owner false).holds enrolledNameAttr id old := by
  unfold takeHostname
  split
  · exact not_enrolledName_of_withHostname
  · dsimp only
    split <;> exact not_enrolledName_of_withHostname

/-- A learned name leaves enrolled names alone exactly if the entry has none or is indexed under the
name. -/
theorem enrolledName_kept_claim_iff (name : String) :
    enrolledNameAttr.Kept d (claimHostname d id (some name) false) ↔
      ∀ old, d.holds enrolledNameAttr id old → d.byHostname name = some id := by
  unfold claimHostname
  cases hentry : d.entries id with
  | none =>
    refine iff_of_true .refl ?_
    rintro old ⟨e,he,-⟩
    rw [hentry] at he
    cases he
  | some current =>
    dsimp only
    split
    · rename_i hown
      exact iff_of_true .refl fun _ _ => hown.1
    · rename_i hown
      constructor
      · intro hkept old hold
        exact absurd (hkept id old hold) (not_enrolledName_take name _ old)
      · intro hindexed
        have hentries : (dropHostnameIndex d id current.hostname).entries = d.entries :=
          dropHostnameIndex_entries _
        have hfree : ∀ old,
            ¬(dropHostnameIndex d id current.hostname).holds enrolledNameAttr id old := by
          rintro old ⟨e,he,hk⟩
          rw [hentries, hentry] at he
          cases he
          exact hown ⟨hindexed old ⟨current,hentry,hk⟩,hk.2,Bool.false_ne_true⟩
        exact (Attr.Kept.refl.index hentries).trans (enrolledName_kept_take hfree name _)

theorem claimHostname_none {current : LanDeviceEntry} (h : d.entries id = some current) :
    claimHostname d id none false =
      (dropHostnameIndex d id current.hostname).updateEntry id (·.withHostname none false) := by
  unfold claimHostname
  rw [h]

/-- The end of a lease leaves enrolled names alone exactly if it is not under the entry's own. -/
theorem enrolledName_kept_expire_iff :
    enrolledNameAttr.Kept d (expireHostname d id name) ↔ ∀ old, d.holds enrolledNameAttr id old →
    name ≠ some old := by
  cases name with
  | none =>
    refine iff_of_true .refl ?_
    intro old _ hsame
    cases hsame
  | some name =>
    unfold expireHostname
    dsimp only
    split
    · rename_i hown
      obtain ⟨current,hentry,hname⟩ := (any_eq_true _ _).mp hown
      have hname : current.hostname = some name := of_decide_eq_true hname
      rw [claimHostname_none hentry]
      constructor
      · intro hkept old hold
        exact absurd (hkept id old hold) not_enrolledName_of_withHostname
      · intro hother
        refine (Attr.Kept.refl.index (dropHostnameIndex_entries _)).updateOther ?_
        rintro old ⟨e,he,hold,hflag⟩
        rw [hentry] at he
        cases he
        exact hother old ⟨current,hentry,hold,hflag⟩ (hname.symm.trans hold)
    · rename_i hown
      refine iff_of_true .refl ?_
      rintro old ⟨e,he,hold,-⟩ hsame
      rw [he, any_some, hold, hsame] at hown
      exact hown (decide_eq_true rfl)

theorem staticIpv4_sameHolders_expire :
    staticIpv4Attr.SameHolders d (expireHostname d id name) := by
  have hkept : KeptByHostname (staticIpv4Attr.SameHolders d) :=
    ⟨fun _ _ _ _ h => h.updateEntry fun _ _ => Iff.rfl,fun _ _ h => h.index rfl⟩
  unfold expireHostname
  split
  · split
    · exact hkept.claim (fun _ _ => Iff.rfl) none false
    · exact fun _ _ => Iff.rfl
  · exact fun _ _ => Iff.rfl

theorem staticIpv4_kept_release_iff (ip : Ipv4Addr) :
    staticIpv4Attr.Kept d (releaseIpv4 d id ip) ↔ ¬d.holds staticIpv4Attr id ip := by
  constructor
  · intro hkept hold
    obtain ⟨hne,-⟩ | ⟨-,e,-,hip,-⟩ := holds_updateEntry (hkept id ip hold)
    · exact hne rfl
    · exact ipv4_tabled.gone e ip hip
  · intro hnone
    refine (Attr.Kept.refl.index rfl).updateEntry ?_
    intro e k he hk
    dsimp only [ipv4Table, LanDeviceEntry.withoutIpv4]
    split
    · rename_i hip
      exact absurd ⟨e,he,hip,hk.2⟩ hnone
    · exact hk

end Operations

section Step
variable {amb : Ambient} {d : Directory}

theorem keepsEnrolled_bound (hfresh : d.entries amb.newId = none) {mac : MacAddr}
    {deviceId : Option Uuid} (hanchor : ¬ReanchorsId amb d mac deviceId) : KeepsEnrolled d
      (bindDeviceId amb (resolveOrCreateByMac amb d mac).2 (resolveOrCreateByMac amb d mac).1
        deviceId) := by
  have hresolved : KeepsEnrolled d (resolveOrCreateByMac amb d mac).2 :=
    ⟨kept_resolveOrCreateByMac hfresh mac,kept_resolveOrCreateByMac hfresh mac⟩
  obtain heq | ⟨device,heq⟩ := bindDeviceId_cases hanchor
  · rwa [heq]
  · rw [heq]
    exact KeepsEnrolled.updateEntry (hresolved.index rfl) (fun _ => rfl) fun _ => rfl

variable {id : Uuid} {d₀ : Directory}

theorem enrolledName_kept_learn_iff {d₁ : Directory} (hframe : enrolledNameAttr.Frame d d₁)
    (hkept : enrolledNameAttr.Kept d d₁) (name : Option String) :
    enrolledNameAttr.Kept d (match name with
      | some name => claimHostname d₁ id (some name) false
      | none => d₁) ↔
      ∀ old new, d.holds enrolledNameAttr id old → name = some new →
      d.byHostname new = some id := by
  cases name with
  | none =>
    refine iff_of_true hkept ?_
    intro old new _ hsome
    cases hsome
  | some name =>
    have hindex : d₁.byHostname name = d.byHostname name := congrFun hframe.index name
    constructor
    · intro hclaim old new hold hsome
      cases hsome
      have hclaim₁ : enrolledNameAttr.Kept d₁ (claimHostname d₁ id (some name) false) :=
        fun i k hk => hclaim i k (hframe.held i k hk)
      rw [← hindex]
      exact (enrolledName_kept_claim_iff name).mp hclaim₁ old (hkept id old hold)
    · intro hindexed
      refine hkept.trans ((enrolledName_kept_claim_iff name).mpr ?_)
      intro old hold
      rw [hindex]
      exact hindexed old name (hframe.held id old hold) rfl

theorem applyIpv4Event_allocated_iff (hfresh : d.entries amb.newId = none) {info : IPv4AssignInfo}
    (hanchor : ¬ReanchorsId amb d info.mac info.deviceId) :
    KeepsEnrolled d (applyIpv4Event amb d (.allocated info)) ↔
      (Observation.ipv4 (.allocated info)).Harmless amb d := by
  let id := (resolveOrCreateByMac amb d info.mac).1
  let d₁ := bindDeviceId amb (resolveOrCreateByMac amb d info.mac).2 id info.deviceId
  let d₂ := recordLease amb d₁ id info
  have hbound : KeepsEnrolled d d₁ := keepsEnrolled_bound hfresh hanchor
  have hframe₁ : enrolledNameAttr.Frame d d₁ := by
    refine (enrolledName_frame_resolve amb info.mac).trans ?_
    unfold d₁ id
    obtain heq | ⟨device,heq⟩ := bindDeviceId_cases hanchor
    · rw [heq]
      exact .refl
    · rw [heq]
      exact Attr.Frame.updateEntry ⟨rfl,fun _ _ hk => hk⟩ fun _ _ hk => hk
  have hframe : enrolledNameAttr.Frame d d₂ :=
    hframe₁.trans (enrolledName_frame_recordLease amb info)
  have hnames : enrolledNameAttr.Kept d d₂ :=
    hbound.1.trans (enrolledName_kept_recordLease amb info)
  have haddrs : staticIpv4Attr.Kept d d₂ := hbound.2.trans (staticIpv4_kept_recordLease amb info)
  have hstatic : staticIpv4Attr.Kept d (applyIpv4Event amb d (.allocated info)) := by
    change staticIpv4Attr.Kept d (match info.hostname.bind amb.domainToAscii with
      | some hostname => claimHostname d₂ id (some hostname) false
      | none => d₂)
    split
    · exact staticIpv4_keptByHostname.claim haddrs _ _
    · exact haddrs
  have hlearn : enrolledNameAttr.Kept d (applyIpv4Event amb d (.allocated info)) ↔
      ∀ old new, d.holds enrolledNameAttr id old → info.hostname.bind amb.domainToAscii = some new →
        d.byHostname new = some id := enrolledName_kept_learn_iff hframe hnames _
  unfold KeepsEnrolled
  rw [hlearn, and_iff_left hstatic]
  dsimp only [Observation.Harmless]
  cases hmac : d.byMac info.mac with
  | none =>
    -- a new entry has no name yet
    have hid : id = amb.newId := by
      unfold id resolveOrCreateByMac
      rw [hmac]
    refine iff_of_true ?_ nofun
    rintro old new ⟨e,he,-⟩
    rw [hid, hfresh] at he
    cases he
  | some i =>
    have hid : id = i := by
      unfold id resolveOrCreateByMac
      rw [hmac]
    rw [hid]
    constructor
    · intro hindexed j old new hj
      cases hj
      exact hindexed old new
    · intro hindexed old new
      exact hindexed i old new rfl

theorem applyIpv4Event_expired_iff :
    KeepsEnrolled d (applyIpv4Event amb d (.expired info)) ↔
    (Observation.ipv4 (.expired info)).Harmless amb d := by
  unfold applyIpv4Event
  dsimp only [Observation.Harmless]
  cases hmac : d.byMac info.mac with
  | none => exact iff_of_true ⟨.refl,.refl⟩ nofun
  | some i =>
    let name := info.hostname.bind amb.domainToAscii
    have hreleased : enrolledNameAttr.SameHolders d (releaseIpv4 d i info.ip) := by
      refine .updateEntry (.index (fun _ _ => Iff.rfl) rfl) ?_
      intro e k
      dsimp only [ipv4Table, LanDeviceEntry.withoutIpv4]
      split <;> rfl
    have hnames : enrolledNameAttr.Kept d (expireIpv4 amb d i info) ↔
        enrolledNameAttr.Kept (releaseIpv4 d i info.ip)
          (expireHostname (releaseIpv4 d i info.ip) i name) :=
      hreleased.kept_iff (.updateEntry (fun _ _ => Iff.rfl) fun _ _ => Iff.rfl)
    have haddrs : staticIpv4Attr.Kept d (expireIpv4 amb d i info) ↔
        staticIpv4Attr.Kept d (releaseIpv4 d i info.ip) := by
      refine Attr.SameHolders.kept_iff (fun _ _ => Iff.rfl) ?_
      exact Attr.SameHolders.updateEntry (staticIpv4_sameHolders_expire name) fun _ _ => Iff.rfl
    unfold KeepsEnrolled
    rw [hnames, haddrs, enrolledName_kept_expire_iff, staticIpv4_kept_release_iff]
    simp only [← hreleased i _]
    constructor
    · rintro ⟨hname,hip⟩ j hj
      cases hj
      exact ⟨hip,hname⟩
    · intro hharmless
      exact ⟨(hharmless i rfl).2,(hharmless i rfl).1⟩

theorem KeepsEnrolled.observeIpv6 (h : KeepsEnrolled d₀ d) (ip : Ipv6Addr)
    (source : AddressSourceV6) :
    KeepsEnrolled d₀ (observeIpv6 d id ip source) := by
  have hclaimed : KeepsEnrolled d₀ (claimIpv6 d id ip source).2 :=
    ⟨enrolledName_keptByIpv6.claim h.1 ip _,staticIpv4_keptByIpv6.claim h.2 ip _⟩
  unfold LanDevice.observeIpv6
  dsimp only
  split
  · exact hclaimed.updateEntry (fun _ => rfl) fun _ => rfl
  · exact hclaimed

theorem KeepsEnrolled.observeAll (h : KeepsEnrolled d₀ d) (suffix : Option (BitVec 64))
    (ips : List Ipv6AssignAddress) : KeepsEnrolled d₀ (observeAll d id suffix ips) := by
  induction ips generalizing d with
  | nil => exact h
  | cons addr ips ih => exact ih (h.observeIpv6 addr.ip _)

theorem KeepsEnrolled.clearIpv6 (h : KeepsEnrolled d₀ d) : KeepsEnrolled d₀ (clearIpv6 d id) := by
  refine KeepsEnrolled.updateEntry ?_ (fun _ => rfl) fun _ => rfl
  exact h.index rfl

theorem keepsEnrolled_ipv6 (hfresh : d.entries amb.newId = none) {event : IPv6AssignEvent}
    (hanchor : ¬(Observation.ipv6 event).Reanchors amb d) :
    KeepsEnrolled d (applyIpv6Event amb d event) := by
  cases event with
  | allocated info =>
    exact ((keepsEnrolled_bound hfresh hanchor).observeAll _ _).updateEntry (fun _ => rfl)
      fun _ => rfl
  | flush info =>
    exact ((keepsEnrolled_bound hfresh hanchor).clearIpv6.observeAll _ _).updateEntry (fun _ => rfl)
      fun _ => rfl
  | expired info =>
    unfold applyIpv6Event
    dsimp only
    split
    · exact ⟨enrolledName_keptByIpv6.dropAll .refl _,staticIpv4_keptByIpv6.dropAll .refl _⟩
    · exact ⟨.refl,.refl⟩

theorem keepsEnrolled_resolveObserved (hfresh : d.entries amb.newId = none)
    (event : LanDiscoveryEvent) :
    KeepsEnrolled d (resolveObserved amb d event).2 := by
  unfold resolveObserved
  split
  · exact ⟨kept_resolveOrCreateByMac hfresh _,kept_resolveOrCreateByMac hfresh _⟩
  · split
    · exact ⟨.refl,.refl⟩
    · exact ⟨Attr.Kept.refl.create hfresh _,Attr.Kept.refl.create hfresh _⟩

theorem KeepsEnrolled.observe (h : KeepsEnrolled d₀ d) (ip : IpAddr) :
    KeepsEnrolled d₀ (observe d id ip) := by
  cases ip with
  | v4 ip =>
    unfold LanDevice.observe observeIpv4
    dsimp only
    split
    · rename_i hnone
      have hname : enrolledNameAttr.Kept d₀ (claimIpv4 d id ip .arp).2 :=
        enrolledName_keptByIpv4.claim h.1 ip _
      have haddr : staticIpv4Attr.Kept d (claimIpv4 d id ip .arp).2 :=
        staticIpv4_kept_claim (by decide) ip
      have hfree : ∀ k, ¬d.holds staticIpv4Attr id k := by
        intro k hk
        rw [currentIpv4_of_static hk] at hnone
        cases hnone
      split
      · exact ⟨hname.updateEntry fun _ _ _ hk => hk,h.2.trans (haddr.updateOther hfree)⟩
      · exact ⟨hname,h.2.trans haddr⟩
    · exact h
  | v6 ip =>
    unfold LanDevice.observe
    dsimp only
    split
    · exact h
    · exact h.observeIpv6 ip .slaac

theorem keepsEnrolled_discovery (hfresh : d.entries amb.newId = none) (event : LanDiscoveryEvent) :
    KeepsEnrolled d (applyDiscoveryEvent amb d event) := by
  have hobserved : KeepsEnrolled d (observe (resolveObserved amb d event).2
      (resolveObserved amb d event).1 event.ip) :=
    (keepsEnrolled_resolveObserved hfresh event).observe event.ip
  refine KeepsEnrolled.updateEntry ?_ (fun _ => rfl) fun _ => rfl
  split
  · exact hobserved.updateEntry (fun _ => rfl) fun _ => rfl
  · exact hobserved

end Step

/-- Whatever happened before, an observation that does not move a device id leaves enrolled names
and fixed addresses alone exactly if it is harmless. A new entry gets an id that no entry has. -/
theorem keepsEnrolled_iff_harmless (events : List (Ambient × Event)) (amb : Ambient)
    (seen : Observation) (hfresh : (run events).entries amb.newId = none)
    (hanchor : ¬seen.Reanchors amb (run events)) :
    KeepsEnrolled (run events) (apply (run events) (amb, seen.event)) ↔
    seen.Harmless amb (run events) := by
  cases seen with
  | ipv4 event =>
    cases event with
    | allocated info => exact applyIpv4Event_allocated_iff hfresh hanchor
    | expired info => exact applyIpv4Event_expired_iff info
  | ipv6 event => exact iff_of_true (keepsEnrolled_ipv6 hfresh hanchor) trivial
  | discovery event => exact iff_of_true (keepsEnrolled_discovery hfresh event) trivial

def enrolledNas : EnrolledDevice := ⟨0xD,none,"storage",some "nas",0xA,some 10,none⟩

def enrolledOnce : List (Ambient × Event) := [(⟨1000,1,some⟩, .device (.updated none enrolledNas))]

def leased (name : String) (ip : Ipv4Addr) : Observation :=
  .ipv4 (.allocated ⟨"lan0",0xA,ip,some name,none,some 3600⟩)

theorem not_reanchors_leased (name : String) (ip : Ipv4Addr) :
    ¬(leased name ip).Reanchors amb d := by
  rintro ⟨device,previous,hsome,-⟩
  cases hsome

theorem keepsEnrolled_sample : (run enrolledOnce).entries 2 = none ∧
    KeepsEnrolled (run enrolledOnce)
    (apply (run enrolledOnce) (⟨2000,2,some⟩, (leased "nas" 20).event)) := by
  have hnas : (run enrolledOnce).byHostname "nas" = some 1 := by decide +kernel
  have hmac : (run enrolledOnce).byMac 0xA = some 1 := by decide +kernel
  refine ⟨rfl,(keepsEnrolled_iff_harmless enrolledOnce ⟨2000,2,some⟩ _ rfl
    (not_reanchors_leased _ _ _ _)).mpr ?_⟩
  intro i old new hi _ hname
  cases hname
  exact hnas.trans (hmac.symm.trans hi)

def AlwaysKeepsEnrolled : Prop :=
  ∀ (events : List (Ambient × Event)) (amb : Ambient) (seen : Observation),
    (run events).entries amb.newId = none →
    ¬seen.Reanchors amb (run events) →
      KeepsEnrolled (run events) (apply (run events) (amb, seen.event))

/-- The device sends its own idea of its name with the request, and the enrolled name is gone. -/
theorem alwaysKeepsEnrolled_fails : ¬AlwaysKeepsEnrolled := by
  intro hall
  have hkept :=
    (hall enrolledOnce ⟨2000,2,some⟩ (leased "laptop" 20) rfl (not_reanchors_leased _ _ _ _)).1
  have hnas : ((run enrolledOnce).entries 1).any
      (fun e => e.hostname = some "nas" ∧ e.hostnameFromEnroll = true) = true := by decide +kernel
  obtain ⟨e,he,hnas⟩ := (any_eq_true _ _).mp hnas
  have hold : e.hostname = some "nas" ∧ e.hostnameFromEnroll = true := of_decide_eq_true hnas
  have hafter : ((apply (run enrolledOnce)
      (⟨2000,2,some⟩, (leased "laptop" 20).event)).entries 1).all
      (fun e => decide (e.hostname = some "laptop")) = true := by decide +kernel
  obtain ⟨e',he',hname,-⟩ := hkept 1 "nas" ⟨e,he,hold⟩
  rw [he', all_some, hname] at hafter
  exact absurd (of_decide_eq_true hafter) (by decide)

end Landscape.LanDevice
