import Landscape.Dhcp6.Ownership

/-! SLAAC addresses and DHCPv6 suffixes are kept apart, as long as no binding is made or given up on
the suffix of an address that was observed. -/
namespace Landscape.Dhcp6
open Route Run Table Option AList

variable {s s' : NaStatus} {mac : MacAddr} {duid : Duid} {suffix : UInt64} {order : List Duid}
  {now : Nat} {lease : NaLease} {hostname : Option String} {ip : Ipv6Addr} {o : SuffixOwner}
  {x : UInt64} {old : Option UInt64} {macDuid : Option Duid}

def Clear (s : NaStatus) (x : UInt64) : Prop := ∀ ip ∈ s.slaacEntries, ipv6Suffix ip ≠ x

def BindingClear (s : NaStatus) (mac : MacAddr) : Prop :=
  ∀ old, s.naStaticByMac.lookup mac = some old → Clear s old

/-- The suffix of a SLAAC address has no owner, and a lookup takes none of the owned ones for
SLAAC. -/
structure Apart (s : NaStatus) : Prop where
  unowned : ∀ ip ∈ s.slaacEntries, ipv6Suffix ip ∉ s.naOwnersBySuffix
  attributed : ∀ order ip a, lookupByIp order ip s = some a → a.source = .slaac →
    ipv6Suffix ip ∉ s.naOwnersBySuffix

theorem source_ownedAddr {a : AssignedAddr}
    (h : ownedAddr order ip o s = some a) : a.source = .dhcpv6Na := by
  unfold ownedAddr at h
  split at h
  · exact some.inj h ▸ rfl
  · split at h
    · exact some.inj h ▸ rfl
    · cases h

theorem apart_of_unowned (h : ∀ ip ∈ s.slaacEntries, ipv6Suffix ip ∉ s.naOwnersBySuffix) :
    Apart s := by
  refine ⟨h,?_⟩
  intro order ip a ha hsource
  unfold lookupByIp at ha
  split at ha
  · rename_i entry hentry
    exact h ip (mem_of_lookup hentry)
  · obtain ⟨o,-,ho⟩ := bind_eq_some_iff.mp ha
    cases hsource.symm.trans (source_ownedAddr ho)

structure Keeps (s s' : NaStatus) : Prop where
  slaac : ∀ ip ∈ s'.slaacEntries, ip ∈ s.slaacEntries
  owner : ∀ x ∈ s'.naOwnersBySuffix, x ∈ s.naOwnersBySuffix ∨ Clear s' x

theorem Keeps.refl (s : NaStatus) : Keeps s s := ⟨fun _ h => h,fun _ h => .inl h⟩

theorem Keeps.clear (h : Keeps s s') (hx : Clear s x) : Clear s' x :=
  fun ip hip => hx ip (h.slaac ip hip)

theorem Keeps.trans {s₁ s₂ s₃ : NaStatus} (h : Keeps s₁ s₂) (h' : Keeps s₂ s₃) : Keeps s₁ s₃ := by
  refine ⟨fun ip hip => h.slaac ip (h'.slaac ip hip),fun x hx => ?_⟩
  rcases h'.owner x hx with hx | hx
  · exact (h.owner x hx).imp_right h'.clear
  · exact .inr hx

theorem Keeps.apart (h : Keeps s s') (ha : Apart s) : Apart s' := by
  refine apart_of_unowned fun ip hip hx => ?_
  rcases h.owner _ hx with hx | hx
  · exact ha.unowned ip (h.slaac ip hip) hx
  · exact hx ip hip rfl

theorem keeps_of_erase (hslaac : s'.slaacEntries = s.slaacEntries)
    (howner : ∀ x ∈ s'.naOwnersBySuffix, x ∈ s.naOwnersBySuffix) : Keeps s s' :=
  ⟨fun _ hip => hslaac ▸ hip,fun x hx => .inl (howner x hx)⟩

theorem keeps_of_insert (hslaac : s'.slaacEntries = s.slaacEntries)
    (howner : s'.naOwnersBySuffix = s.naOwnersBySuffix.insert suffix o) (hclear : Clear s suffix) :
    Keeps s s' := by
  refine ⟨fun _ hip => hslaac ▸ hip,fun x hx => ?_⟩
  rw [howner, mem_insert] at hx
  rcases hx with rfl | hx
  · exact .inr fun ip hip => hclear ip (hslaac ▸ hip)
  · exact .inl hx

theorem mem_of_mem_erase (h : x ∈ s.naOwnersBySuffix.erase suffix) :
    x ∈ s.naOwnersBySuffix := (mem_erase.mp h).2

theorem keeps_removeDynamicOwner : Keeps s (removeDynamicOwnerIfMatches suffix duid s) := by
  unfold removeDynamicOwnerIfMatches
  split
  · exact keeps_of_erase rfl fun _ => mem_of_mem_erase
  · exact .refl s

theorem keeps_leases (leases : AList fun _ : Duid => NaLease) :
    Keeps s { s with naLeasesByDuid := leases } := keeps_of_erase rfl fun _ h => h

theorem keeps_bindings (bindings : AList fun _ : MacAddr => UInt64) :
    Keeps s { s with naStaticByMac := bindings } := keeps_of_erase rfl fun _ h => h

theorem keeps_removeNaLease : Keeps s (removeNaLease duid s) := by
  unfold removeNaLease
  split
  · exact .refl s
  · split
    · exact keeps_leases _
    · exact (keeps_leases _).trans keeps_removeDynamicOwner

theorem keeps_removeAll (ds : List Duid) : Keeps s (ds.foldl (fun s d => removeNaLease d s) s) := by
  induction ds generalizing s with
  | nil => exact .refl s
  | cons d ds ih => exact keeps_removeNaLease.trans ih

theorem keeps_insertLease : Keeps s (insertLease duid o lease s) := by
  constructor
  · intro ip hip
    obtain ⟨e,he,-⟩ := (mem_retain _).mp hip
    exact mem_of_lookup he
  · intro x hx
    rcases mem_insert _ |>.mp hx with rfl | hx
    · refine .inr fun ip hip => ?_
      obtain ⟨e,-,he⟩ := (mem_retain _).mp hip
      exact of_decide_eq_true he
    · exact .inl hx

theorem keeps_dropLeaseOwner {d : Option Duid} : Keeps s (dropLeaseOwner d s) := by
  unfold dropLeaseOwner
  split
  · split
    · exact keeps_removeDynamicOwner
    · exact .refl s
  · exact .refl s

theorem keeps_dropStaticLease : Keeps s (dropStaticLease order duid mac s) := by
  unfold dropStaticLease
  split
  · split
    · exact keeps_leases _
    · exact .refl s
  · exact .refl s

theorem keeps_allocate {prev excluded : Option UInt64} :
    Keeps s (allocateDynamicNaSuffix duid mac hostname now prev excluded s).2 := by
  generalize hs' : (allocateDynamicNaSuffix duid mac hostname now prev excluded s).2 = s'
  obtain ⟨t,ht,hs⟩ := allocate_cases hs'
  have hclean : Keeps s t := by
    rcases ht with rfl | rfl
    · exact .refl _
    · exact keeps_removeAll _
  rcases hs with rfl | ⟨x,-,rfl⟩
  · exact hclean
  · exact hclean.trans keeps_insertLease

theorem keeps_offerNa : Keeps s (offerNa order now duid mac hostname s).2 := by
  unfold offerNa
  split
  · exact keeps_dropLeaseOwner.trans (keeps_dropStaticLease.trans keeps_insertLease)
  · split
    · exact .refl s
    · split
      · exact .refl s
      · exact keeps_allocate

/-! Bindings. A suffix that is bound, or that was, gets an owner without regard to observations. -/

theorem keeps_dropOldOwner : Keeps s (dropOldOwner mac suffix old s) := by
  unfold dropOldOwner
  split
  · split
    · exact keeps_of_erase rfl fun _ => mem_of_mem_erase
    · exact .refl s
  · exact .refl s

theorem keeps_reassign (hold : ∀ x ∈ old, Clear s x) :
    Keeps s (reassign now suffix old duid lease s) := by
  unfold reassign
  split
  · rename_i old
    split
    · exact keeps_of_insert rfl rfl (hold old rfl)
    · exact .refl s
  · split
    · exact keeps_allocate
    · exact .refl s

theorem keeps_evictOccupant
    (hold : ∀ x ∈ old, Clear s x) : Keeps s (evictOccupant now suffix old macDuid s) := by
  have herase : Keeps s { s with naOwnersBySuffix := s.naOwnersBySuffix.erase suffix } :=
    keeps_of_erase rfl fun _ => mem_of_mem_erase
  unfold evictOccupant
  dsimp only
  split
  · split
    · split
      · exact (herase.trans (keeps_leases _)).trans (keeps_reassign hold)
      · exact herase
    · exact herase
  · exact herase

theorem keeps_settle (hclear : Clear s suffix) : Keeps s (moveLease now suffix macDuid
      { s with naOwnersBySuffix := s.naOwnersBySuffix.insert suffix (.staticMac mac) }) := by
  unfold moveLease
  split
  · split <;> exact keeps_of_insert rfl rfl hclear
  · exact keeps_of_insert rfl rfl hclear

theorem keeps_bindMacSuffix (hsuffix : Clear s suffix) (hold : BindingClear s mac) :
    Keeps s (bindMacSuffix order now mac suffix s).2 := by
  unfold bindMacSuffix
  split
  · exact .refl s
  · split
    · exact .refl s
    · split
      · exact .refl s
      · unfold claimSuffix
        dsimp only
        have haside : Keeps s (dropLeaseOwner (leaseDuidForMac order mac s)
            (dropOldOwner mac suffix (s.naStaticByMac.lookup mac)
              { s with naStaticByMac := s.naStaticByMac.insert mac suffix })) :=
          ((keeps_bindings _).trans keeps_dropOldOwner).trans keeps_dropLeaseOwner
        generalize dropLeaseOwner _ _ = s₁ at haside ⊢
        have hevict : Keeps s₁ (evictOccupant now suffix (s.naStaticByMac.lookup mac)
            (leaseDuidForMac order mac s) s₁) :=
          keeps_evictOccupant fun x hx => haside.clear (hold x hx)
        have hall := haside.trans hevict
        exact hall.trans (keeps_settle (hall.clear hsuffix))

theorem keeps_keepOrReassign (hold : Clear s suffix) :
    Keeps s (keepOrReassign now suffix duid lease s) := by
  unfold keepOrReassign
  split
  · exact keeps_of_insert rfl rfl hold
  · split
    · exact keeps_allocate
    · exact .refl s

theorem keeps_removeMacBinding (hold : BindingClear s mac) :
    Keeps s (removeMacBinding order now mac s) := by
  unfold removeMacBinding
  split
  · exact .refl s
  · rename_i old hbind
    dsimp only
    have hunbind : Keeps s (dropBinding mac old s) := by
      unfold dropBinding
      dsimp only
      split
      · exact keeps_of_erase rfl fun _ => mem_of_mem_erase
      · exact keeps_bindings _
    have hclear := hunbind.clear (hold old hbind)
    generalize dropBinding mac old s = s₁ at hunbind hclear ⊢
    split
    · exact hunbind
    · split
      · exact hunbind
      · exact (hunbind.trans (keeps_leases _)).trans (keeps_keepOrReassign hclear)

/-- A binding is made or given up on suffixes that no observation has: the new one, and the one the
MAC has had. -/
def BindsClear (s : NaStatus) : NaEvent → Prop
  | .bindMacSuffix _ _ mac suffix => Clear s suffix ∧ BindingClear s mac
  | .removeMacBinding _ _ mac => BindingClear s mac
  | _ => True

theorem Apart.observe {entries : AList fun _ : Ipv6Addr => SlaacEntry} (h : Apart s)
    (hentries : ∀ ip ∈ entries, ip ∈ s.slaacEntries ∨ ipv6Suffix ip ∉ s.naOwnersBySuffix) :
    Apart { s with slaacEntries := entries } :=
  apart_of_unowned fun ip hip => (hentries ip hip).elim (h.unowned ip) id

theorem Apart.touch {entry entry' : SlaacEntry} (h : Apart s)
    (hentry : s.slaacEntries.lookup ip = some entry) :
    Apart { s with slaacEntries := s.slaacEntries.insert ip entry' } := by
  refine h.observe fun ip' hip' => .inl ?_
  rcases (mem_insert _).mp hip' with rfl | hip'
  · exact mem_of_lookup hentry
  · exact hip'

theorem Apart.step {e : NaEvent} (h : Apart s) (he : BindsClear s e) (hs : naStep s e = some s') :
    Apart s' := by
  cases e with
  | offerNa order now duid mac hostname =>
    obtain ⟨-,hs⟩ := ite_none_right_eq_some.mp hs
    exact some.inj hs ▸ keeps_offerNa.apart h
  | confirmNa now duid =>
    obtain rfl := some.inj hs
    unfold confirmNa
    split
    · exact h
    · split
      · exact (keeps_leases _).apart h
      · exact h
  | consumePrevSuffix duid =>
    obtain rfl := some.inj hs
    unfold consumePrevSuffix
    split
    · exact (keeps_leases _).apart h
    · exact h
  | releaseNa duid => exact some.inj hs ▸ keeps_removeNaLease.apart h
  | cleanExpiredNa now => exact some.inj hs ▸ (keeps_removeAll _).apart h
  | bindMacSuffix order now mac suffix =>
    obtain ⟨-,hs⟩ := ite_none_right_eq_some.mp hs
    exact some.inj hs ▸ (keeps_bindMacSuffix he.1 he.2).apart h
  | removeMacBinding order now mac =>
    obtain ⟨-,hs⟩ := ite_none_right_eq_some.mp hs
    exact some.inj hs ▸ (keeps_removeMacBinding he).apart h
  | recordSlaacAddr now mac ip =>
    obtain rfl := some.inj hs
    unfold recordSlaacAddr
    split
    · exact h
    · rename_i hfree
      refine h.observe fun ip' hip' => ?_
      rcases (mem_insert _).mp hip' with rfl | hip'
      · exact .inr hfree
      · exact .inl hip'
  | touchSlaacAddr now mac ip =>
    obtain rfl := some.inj hs
    unfold touchSlaacAddr
    split
    · exact h
    · rename_i entry hentry
      split
      · exact h
      · exact h.touch hentry
  | touchSlaacProbe now ip =>
    obtain rfl := some.inj hs
    unfold touchSlaacProbe
    split
    · exact h
    · rename_i entry hentry
      split
      · exact h
      · exact h.touch hentry
  | slaacExpireSweep now t1 t2 =>
    obtain rfl := some.inj hs
    refine h.observe fun ip hip => .inl ?_
    obtain ⟨e,he,-⟩ := (mem_retain _).mp ((mem_mapVals _).mp hip)
    exact mem_of_lookup he

theorem slaacEntries_enrollAll (devices : List EnrolledDevice) :
    (devices.foldl enroll s).slaacEntries = s.slaacEntries := by
  induction devices generalizing s with
  | nil => rfl
  | cons a devices ih =>
    rw [List.foldl_cons, ih]
    unfold enroll
    split <;> rfl

theorem apart_new (naConfig : Option DHCPv6IANAConfig) (devices : List EnrolledDevice)
    (preferred valid : UInt32) : Apart (NaStatus.new naConfig devices preferred valid) := by
  refine apart_of_unowned fun ip hip => ?_
  have hempty : (NaStatus.new naConfig devices preferred valid).slaacEntries = ∅ :=
    slaacEntries_enrollAll devices
  rw [hempty] at hip
  exact absurd hip (notMem_empty ip)

/-- Observed addresses and owned suffixes stay apart while bindings are made and given up only where
nothing was observed. -/
theorem apart_of_bindsClear {naConfig : Option DHCPv6IANAConfig} {devices : List EnrolledDevice}
    {preferred valid : UInt32}
    (hr : Runs naStep BindsClear (.new naConfig devices preferred valid) s) : Apart s :=
  hr.invariant Apart (fun _ _ _ h he hs => h.step he hs)
    (apart_new naConfig devices preferred valid)

instance (s : NaStatus) (x : UInt64) : Decidable (Clear s x) :=
  decidable_of_iff (s.slaacEntries.keys.all (fun ip => decide (ipv6Suffix ip ≠ x)) = true)
    (by simp [Clear, mem_keys])

instance (s : NaStatus) (mac : MacAddr) : Decidable (BindingClear s mac) :=
  decidable_of_iff ((s.naStaticByMac.lookup mac).all (fun old => decide (Clear s old)) = true)
    (by simp [BindingClear, all_eq_true])

instance (s : NaStatus) : ∀ e : NaEvent, Decidable (BindsClear s e)
  | .bindMacSuffix _ _ mac suffix =>
    inferInstanceAs (Decidable (Clear s suffix ∧ BindingClear s mac))
  | .removeMacBinding _ _ mac => inferInstanceAs (Decidable (BindingClear s mac))
  | .offerNa .. | .confirmNa .. | .consumePrevSuffix .. | .releaseNa .. | .cleanExpiredNa ..
  | .recordSlaacAddr .. | .touchSlaacAddr .. | .touchSlaacProbe .. | .slaacExpireSweep .. =>
    inferInstanceAs (Decidable True)

theorem apart_sample : ∃ s, Runs naStep BindsClear (.new (some sampleConfig) [printer] 300 600) s ∧
      s.slaacEntries.keys.length = 1 ∧ Apart s :=
  runs_and (runs_of_decide _ _ sampleHistory _ _ (by decide +kernel))
    fun _ hrun _ => apart_of_bindsClear hrun

def AlwaysApart : Prop :=
  ∀ naConfig devices preferred valid s,
    Runs naStep (fun _ _ => True) (.new naConfig devices preferred valid) s → Apart s

/-- A device is bound to the suffix of an address that was observed before. -/
theorem apart_fails : ¬AlwaysApart := by
  intro halways
  obtain ⟨s,hrun,hmem,howned⟩ := runs_of_steps naStep (.new (some sampleConfig) [] 300 600)
    [.recordSlaacAddr 0 0x13 0x7, .bindMacSuffix [] 1 0x14 0x7]
    (fun s => (0x7 : Ipv6Addr) ∈ s.slaacEntries ∧ ipv6Suffix 0x7 ∈ s.naOwnersBySuffix)
      (by decide +kernel)
  exact (halways _ _ _ _ s hrun).unowned _ hmem howned

end Landscape.Dhcp6
