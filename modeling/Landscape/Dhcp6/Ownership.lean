import Landscape.Dhcp6.Na
import Landscape.Lib.Run

/-! Who owns which suffix: the leases, the owners and the bindings of the DHCPv6 server agree in
every state that it reaches. -/
namespace Landscape.Dhcp6
open Route Run Table List Option

variable {s s' : NaStatus} {m₀ : Option MacAddr} {d₀ : Option Duid} {mac : MacAddr} {duid : Duid}
  {suffix : UInt64} {order : List Duid} {now : Nat} {l lease : NaLease} {hostname : Option String}

structure OwnedBut (m₀ : Option MacAddr) (d₀ : Option Duid) (s : NaStatus) : Prop where
  dynamic : ∀ d l, some d ≠ d₀ → s.naLeasesByDuid.lookup d = some l → l.isStatic = false →
    s.naOwnersBySuffix.lookup l.suffix = some (.dynamicDuid d)
  holder : ∀ x d, s.naOwnersBySuffix.lookup x = some (.dynamicDuid d) → some d ≠ d₀ ∧
    ∃ l, s.naLeasesByDuid.lookup d = some l ∧ l.suffix = x ∧ l.isStatic = false
  bound : ∀ m x, some m ≠ m₀ → s.naStaticByMac.lookup m = some x →
    s.naOwnersBySuffix.lookup x = some (.staticMac m)
  binder : ∀ x m, s.naOwnersBySuffix.lookup x = some (.staticMac m) → some m ≠ m₀ ∧
    s.naStaticByMac.lookup m = some x
  static : ∀ d l, some d ≠ d₀ → s.naLeasesByDuid.lookup d = some l → l.isStatic = true →
    some l.mac ≠ m₀ ∧ s.naStaticByMac.lookup l.mac = some l.suffix
  once : ∀ d d' l l', some d ≠ d₀ → some d' ≠ d₀ → s.naLeasesByDuid.lookup d = some l →
    s.naLeasesByDuid.lookup d' = some l' → l.isStatic = true → l'.isStatic = true → l.mac = l'.mac →
    d = d'
  moving : ∀ d l, some d = d₀ → s.naLeasesByDuid.lookup d = some l → some l.mac = m₀

abbrev Owned (s : NaStatus) : Prop := OwnedBut none none s

structure Leaves (duid : Duid) (s s' : NaStatus) : Prop where
  lease : ∀ d, s'.naLeasesByDuid.lookup d = if d = duid then none else s.naLeasesByDuid.lookup d
  owner : ∀ x, s'.naOwnersBySuffix.lookup x =
    if s.naOwnersBySuffix.lookup x = some (.dynamicDuid duid) then none
    else s.naOwnersBySuffix.lookup x
  binding : s'.naStaticByMac = s.naStaticByMac

theorem OwnedBut.leaves (h : OwnedBut m₀ d₀ s) (hs : Leaves duid s s') : OwnedBut m₀ d₀ s' := by
  cases h
  constructor <;> simp only [hs.lease, hs.owner, hs.binding] <;> grind

structure Joins (duid : Duid) (l : NaLease) (s s' : NaStatus) : Prop where
  lease : ∀ d, s'.naLeasesByDuid.lookup d = if d = duid then some l else s.naLeasesByDuid.lookup d
  owner : ∀ x, s'.naOwnersBySuffix.lookup x =
    if x = l.suffix then some (.dynamicDuid duid) else s.naOwnersBySuffix.lookup x
  binding : s'.naStaticByMac = s.naStaticByMac

theorem OwnedBut.joins (h : OwnedBut m₀ d₀ s) (hs : Joins duid l s s') (hd : some duid ≠ d₀)
    (hst : l.isStatic = false) (hnew : s.naLeasesByDuid.lookup duid = none)
    (hfree : s.naOwnersBySuffix.lookup l.suffix = none) : OwnedBut m₀ d₀ s' := by
  cases h
  constructor <;> simp only [hs.lease, hs.owner, hs.binding] <;> grind

theorem lookup_removeDynamicOwner (x : UInt64) :
    (removeDynamicOwnerIfMatches suffix duid s).naOwnersBySuffix.lookup x =
      if x = suffix ∧ s.naOwnersBySuffix.lookup x = some (.dynamicDuid duid) then none
      else s.naOwnersBySuffix.lookup x := by
  unfold removeDynamicOwnerIfMatches
  split
  · simp only [lookup_erase_eq]
    grind
  · grind

@[simp] theorem removeDynamicOwner_frame :
    (removeDynamicOwnerIfMatches suffix duid s).naLeasesByDuid = s.naLeasesByDuid ∧
      (removeDynamicOwnerIfMatches suffix duid s).naStaticByMac = s.naStaticByMac := by
  unfold removeDynamicOwnerIfMatches
  split <;> exact ⟨rfl,rfl⟩

theorem OwnedBut.removeNaLease_leaves (h : OwnedBut m₀ d₀ s) (duid : Duid) :
    Leaves duid s (removeNaLease duid s) := by
  have hholder := h.holder
  unfold removeNaLease
  split
  · -- a client without a lease owns nothing
    constructor <;> grind
  · rename_i lease hl
    by_cases hst : lease.isStatic = true
    · simp only [hst, if_true]
      constructor <;> simp only [lookup_erase_eq] <;> grind
    · simp only [hst]
      constructor
      · simp [lookup_erase_eq]
      · intro x
        simp only [if_false, Bool.false_eq_true, lookup_removeDynamicOwner]
        grind
      · simp

structure Shrinks (s s' : NaStatus) : Prop where
  lease : ∀ d l, s'.naLeasesByDuid.lookup d = some l → s.naLeasesByDuid.lookup d = some l
  owner : ∀ x, s.naOwnersBySuffix.lookup x = none → s'.naOwnersBySuffix.lookup x = none
  binding : s'.naStaticByMac = s.naStaticByMac

theorem Shrinks.refl (s : NaStatus) : Shrinks s s := ⟨fun _ _ h => h,fun _ h => h,rfl⟩

theorem Leaves.shrinks (h : Leaves duid s s') : Shrinks s s' := by
  constructor
  · intro d l hl
    rw [h.lease] at hl
    grind
  · intro x hx
    rw [h.owner]
    grind
  · exact h.binding

theorem Shrinks.trans {s₁ s₂ s₃ : NaStatus} (h : Shrinks s₁ s₂) (h' : Shrinks s₂ s₃) :
    Shrinks s₁ s₃ :=
  ⟨fun d l hl => h.lease d l (h'.lease d l hl),fun x hx => h'.owner x (h.owner x hx),
    h'.binding.trans h.binding⟩

theorem OwnedBut.removeAll (ds : List Duid) (h : OwnedBut m₀ d₀ s) :
    OwnedBut m₀ d₀ (ds.foldl (fun s d => removeNaLease d s) s) ∧
      Shrinks s (ds.foldl (fun s d => removeNaLease d s) s) := by
  induction ds generalizing s with
  | nil => exact ⟨h,.refl s⟩
  | cons d ds ih =>
    have hleave := h.removeNaLease_leaves d
    have hrest := ih (h.leaves hleave)
    exact ⟨hrest.1,hleave.shrinks.trans hrest.2⟩

theorem OwnedBut.cleanExpiredNa (h : OwnedBut m₀ d₀ s) (now : Nat) :
    OwnedBut m₀ d₀ (cleanExpiredNa now s) ∧ Shrinks s (cleanExpiredNa now s) :=
  h.removeAll _

variable {excluded old : Option UInt64} {macDuid : Option Duid} {prev : Option UInt64}
  {p : NaLease → Bool} {devices : List EnrolledDevice}

theorem suffixFree_probeSuffix {turns : Nat} {seed : UInt64}
    (h : probeSuffix s excluded turns seed = some suffix) :
    suffixFree s excluded suffix = true := by
  induction turns generalizing seed with
  | zero => cases h
  | succ n ih =>
    simp only [probeSuffix] at h
    split at h
    · rename_i hfree
      exact some.inj h ▸ hfree
    · exact ih h

theorem suffixFree_iff : suffixFree s excluded suffix = true ↔
    some suffix ≠ excluded ∧ s.naOwnersBySuffix.lookup suffix = none ∧
      ∀ ip ∈ s.slaacEntries, ipv6Suffix ip ≠ suffix := by
  simp [suffixFree, and_assoc, AList.lookup_eq_none, AList.mem_keys]

theorem joins_insert (hlease : s'.naLeasesByDuid = s.naLeasesByDuid.insert duid l)
    (howner : s'.naOwnersBySuffix = s.naOwnersBySuffix.insert l.suffix (.dynamicDuid duid))
    (hbinding : s'.naStaticByMac = s.naStaticByMac) : Joins duid l s s' := by
  refine ⟨?_,?_,hbinding⟩
  · intro d
    rw [hlease]
    exact lookup_insert_eq
  · intro x
    rw [howner]
    exact lookup_insert_eq

/-- An allocation takes a suffix that is free, after a clean-up if there was none before. -/
theorem allocate_cases
    (hs' : (allocateDynamicNaSuffix duid mac hostname now prev excluded s).2 = s') :
    ∃ t, (t = s ∨ t = cleanExpiredNa now s) ∧ (s' = t ∨ ∃ x, suffixFree t excluded x = true ∧
        s' = insertDynamicNaLease duid mac hostname now prev x t) := by
  subst hs'
  unfold allocateDynamicNaSuffix
  split
  · exact ⟨s,.inl rfl,.inl rfl⟩
  · split
    · rename_i x hx
      exact ⟨s,.inl rfl,.inr ⟨x,suffixFree_probeSuffix hx,rfl⟩⟩
    · split
      · exact ⟨s,.inl rfl,.inl rfl⟩
      · dsimp only
        split
        · rename_i x hx
          exact ⟨_,.inr rfl,.inr ⟨x,suffixFree_probeSuffix hx,rfl⟩⟩
        · exact ⟨_,.inr rfl,.inl rfl⟩

/-- What an allocation leaves alone: leases of others can only go, and the excluded suffix stays
without an owner. -/
theorem OwnedBut.allocate (h : OwnedBut m₀ d₀ s) (hd : some duid ≠ d₀)
    (hnew : s.naLeasesByDuid.lookup duid = none)
    (hs' : (allocateDynamicNaSuffix duid mac hostname now prev excluded s).2 = s') :
    OwnedBut m₀ d₀ s' ∧ s'.naStaticByMac = s.naStaticByMac ∧
      ∀ x, excluded = some x → s.naOwnersBySuffix.lookup x = none →
      s'.naOwnersBySuffix.lookup x = none := by
  obtain ⟨t,ht,hs⟩ := allocate_cases hs'
  have hclean : OwnedBut m₀ d₀ t ∧ Shrinks s t := by
    rcases ht with rfl | rfl
    · exact ⟨h,.refl _⟩
    · exact h.cleanExpiredNa now
  obtain ⟨hown,hshrink⟩ := hclean
  rcases hs with hs | ⟨x,hfree,hs⟩
  · exact ⟨hs ▸ hown,hs ▸ hshrink.binding,fun x _ hx => hs ▸ hshrink.owner x hx⟩
  · obtain ⟨hexcl,hfree,-⟩ := suffixFree_iff.mp hfree
    have hjoin : Joins duid (offeredLease t x mac hostname now false prev) t s' := by
      rw [hs]
      exact joins_insert rfl rfl rfl
    have hnew' : t.naLeasesByDuid.lookup duid = none := by
      cases hl : t.naLeasesByDuid.lookup duid with
      | none => rfl
      | some l => cases (hshrink.lease duid l hl).symm.trans hnew
    refine ⟨hown.joins hjoin hd rfl hnew' hfree,hjoin.binding.trans hshrink.binding,?_⟩
    intro y hy hnone
    have hxy : y ≠ x := fun hxy => hexcl (hxy ▸ hy.symm)
    exact (hjoin.owner y).trans ((if_neg hxy).trans (hshrink.owner y hnone))

theorem firstLease_some (h : firstLease order p s = some duid) :
    ∃ l, s.naLeasesByDuid.lookup duid = some l ∧ p l = true := by
  have hp := find?_some h
  exact (any_eq_true _ _).mp hp

theorem firstLease_none (hw : walks order s = true)
    (h : firstLease order p s = none) (hl : s.naLeasesByDuid.lookup duid = some l) :
    p l = false := by
  have hmem : duid ∈ order := by
    simpa using all_eq_true.mp hw duid (AList.mem_keys.mp (mem_of_lookup hl))
  have hp := find?_eq_none.mp h duid hmem
  rw [hl] at hp
  simpa using hp

theorem Owned.staticLeaseDuid_eq (h : Owned s) (hw : walks order s = true)
    (hl : s.naLeasesByDuid.lookup duid = some l) (hst : l.isStatic = true) :
    staticLeaseDuidForMac order l.mac s = some duid := by
  cases hf : staticLeaseDuidForMac order l.mac s with
  | none =>
    have hp := firstLease_none hw hf hl
    simp [hst] at hp
  | some d =>
    obtain ⟨l',hl',hp⟩ := firstLease_some hf
    simp only [Bool.and_eq_true, decide_eq_true_eq] at hp
    exact congrArg some (h.once d duid l' l (by simp) (by simp) hl' hl hp.2 hst hp.1)

theorem leaseDuidForMac_some (h : leaseDuidForMac order mac s = some duid) :
    ∃ l, s.naLeasesByDuid.lookup duid = some l ∧ l.mac = mac := by
  rcases or_eq_some_iff.mp h with h | ⟨-,h⟩
  · obtain ⟨l,hl,hp⟩ := firstLease_some h
    simp only [Bool.and_eq_true, decide_eq_true_eq] at hp
    exact ⟨l,hl,hp.1⟩
  · obtain ⟨l,hl,hp⟩ := firstLease_some h
    exact ⟨l,hl,by simpa using hp⟩

theorem Owned.leaseDuid_eq (h : Owned s) (hw : walks order s = true)
    (hl : s.naLeasesByDuid.lookup duid = some l) (hst : l.isStatic = true) :
    leaseDuidForMac order l.mac s = some duid := by
  rw [leaseDuidForMac, h.staticLeaseDuid_eq hw hl hst]
  rfl

structure SetAside (mac : MacAddr) (macDuid : Option Duid) (s s' : NaStatus) : Prop where
  lease : s'.naLeasesByDuid = s.naLeasesByDuid
  owner : ∀ x, s'.naOwnersBySuffix.lookup x =
    if s.naOwnersBySuffix.lookup x = some (.staticMac mac) ∨
        ∃ d, macDuid = some d ∧ s.naOwnersBySuffix.lookup x = some (.dynamicDuid d) then none
    else s.naOwnersBySuffix.lookup x
  binding : ∀ m, m ≠ mac → s'.naStaticByMac.lookup m = s.naStaticByMac.lookup m

theorem Owned.setAside (h : Owned s) (hs : SetAside mac macDuid s s')
    (hmac : ∀ d, macDuid = some d → ∃ l, s.naLeasesByDuid.lookup d = some l ∧ l.mac = mac)
    (hall : ∀ d l, s.naLeasesByDuid.lookup d = some l → l.isStatic = true → l.mac = mac →
      macDuid = some d) : OwnedBut (some mac) macDuid s' := by
  cases h
  have hbinding := hs.binding
  constructor <;> simp only [hs.lease, hs.owner] <;> grind

theorem lookup_dropOldOwner (x : UInt64) :
    (dropOldOwner mac suffix old s).naOwnersBySuffix.lookup x =
      if old = some x ∧ x ≠ suffix ∧ s.naOwnersBySuffix.lookup x = some (.staticMac mac) then none
      else s.naOwnersBySuffix.lookup x := by
  unfold dropOldOwner
  split
  · split
    · simp only [lookup_erase_eq]
      grind
    · grind
  · simp

@[simp] theorem dropOldOwner_frame :
    (dropOldOwner mac suffix old s).naLeasesByDuid = s.naLeasesByDuid ∧
      (dropOldOwner mac suffix old s).naStaticByMac = s.naStaticByMac := by
  unfold dropOldOwner
  split
  · split <;> exact ⟨rfl,rfl⟩
  · exact ⟨rfl,rfl⟩

theorem lookup_dropLeaseOwner (x : UInt64)
    (hheld : ∀ d, s.naOwnersBySuffix.lookup x = some (.dynamicDuid d) →
      ∃ l, s.naLeasesByDuid.lookup d = some l ∧ l.suffix = x) :
    (dropLeaseOwner macDuid s).naOwnersBySuffix.lookup x =
      if ∃ d, macDuid = some d ∧ s.naOwnersBySuffix.lookup x = some (.dynamicDuid d) then none
      else s.naOwnersBySuffix.lookup x := by
  unfold dropLeaseOwner
  split
  · simp only [some.injEq, exists_eq_left']
    split
    · rw [lookup_removeDynamicOwner]
      grind
    · grind
  · simp

@[simp] theorem dropLeaseOwner_frame :
    (dropLeaseOwner macDuid s).naLeasesByDuid = s.naLeasesByDuid ∧
      (dropLeaseOwner macDuid s).naStaticByMac = s.naStaticByMac := by
  unfold dropLeaseOwner
  split
  · split <;> simp
  · exact ⟨rfl,rfl⟩

theorem Owned.setsAside (h : Owned s) (hnew : s.naStaticByMac.lookup mac ≠ some suffix) :
    SetAside mac macDuid s (dropLeaseOwner macDuid
      (dropOldOwner mac suffix (s.naStaticByMac.lookup mac)
      { s with naStaticByMac := s.naStaticByMac.insert mac suffix })) := by
  have hbinder := h.binder
  have hholder := h.holder
  constructor
  · simp
  · intro x
    rw [lookup_dropLeaseOwner, lookup_dropOldOwner]
    · cases macDuid with
      | none => grind
      | some d =>
        simp only [some.injEq, exists_eq_left']
        grind
    · intro d hd
      rw [lookup_dropOldOwner] at hd
      rw [dropOldOwner_frame.1]
      grind
  · intro m hm
    simp [hm]

theorem OwnedBut.reassign (h : OwnedBut m₀ d₀ s) (hd : some duid ≠ d₀)
    (hnew : s.naLeasesByDuid.lookup duid = none) (hfree : s.naOwnersBySuffix.lookup suffix = none) :
    OwnedBut m₀ d₀ (reassign now suffix old duid lease s) ∧
      (reassign now suffix old duid lease s).naStaticByMac = s.naStaticByMac ∧
      (reassign now suffix old duid lease s).naOwnersBySuffix.lookup suffix = none := by
  unfold Dhcp6.reassign
  split
  · rename_i old
    split
    · rename_i hold
      refine ⟨h.joins (joins_insert rfl rfl rfl) hd rfl hnew
        (AList.lookup_eq_none.mpr hold.2.2),rfl,?_⟩
      exact lookup_insert_eq.trans ((if_neg (Ne.symm hold.1)).trans hfree)
    · exact ⟨h,rfl,hfree⟩
  · split
    · obtain ⟨hown,hbind,hfree'⟩ := h.allocate hd hnew rfl
      exact ⟨hown,hbind,hfree' suffix rfl hfree⟩
    · exact ⟨h,rfl,hfree⟩

theorem OwnedBut.evictOccupant (h : OwnedBut m₀ d₀ s)
    (hocc : ∀ m, s.naOwnersBySuffix.lookup suffix ≠ some (.staticMac m)) :
    OwnedBut m₀ d₀ (evictOccupant now suffix old d₀ s) ∧
      (evictOccupant now suffix old d₀ s).naStaticByMac = s.naStaticByMac ∧
      (evictOccupant now suffix old d₀ s).naOwnersBySuffix.lookup suffix = none := by
  unfold Dhcp6.evictOccupant
  dsimp only
  split
  · rename_i d howner
    obtain ⟨hd,l,hl,hsuffix,hst⟩ := h.holder suffix d howner
    rw [if_pos (Ne.symm hd), hl]
    have hleave : Leaves d s { s with
        naOwnersBySuffix := s.naOwnersBySuffix.erase suffix
        naLeasesByDuid := s.naLeasesByDuid.erase d } := by
      have hholder := h.holder
      refine ⟨fun _ => lookup_erase_eq,fun x => lookup_erase_eq.trans ?_,rfl⟩
      grind
    have hleft := h.leaves hleave
    exact hleft.reassign hd ((hleave.lease d).trans (if_pos rfl))
      (lookup_erase_eq.trans (if_pos rfl))
  · rename_i hnone
    -- nobody is there: there is nothing to remove
    have hfree : s.naOwnersBySuffix.lookup suffix = none := by
      cases ho : s.naOwnersBySuffix.lookup suffix with
      | none => rfl
      | some o =>
        cases o with
        | staticMac m => exact absurd ho (hocc m)
        | dynamicDuid d => exact absurd ho (hnone d)
    have hsame : s.naOwnersBySuffix.erase suffix = s.naOwnersBySuffix :=
      AList.ext (kerase_of_notMem_keys (AList.lookup_eq_none.mp hfree))
    rw [hsame]
    exact ⟨h,rfl,hfree⟩

structure Settles (mac : MacAddr) (suffix : UInt64) (macDuid : Option Duid) (s s' : NaStatus) :
    Prop where
  others : ∀ d, some d ≠ macDuid → s'.naLeasesByDuid.lookup d = s.naLeasesByDuid.lookup d
  client : ∀ d l, some d = macDuid → s'.naLeasesByDuid.lookup d = some l →
    l.mac = mac ∧ l.suffix = suffix ∧ l.isStatic = true
  owner : ∀ x, s'.naOwnersBySuffix.lookup x =
    if x = suffix then some (.staticMac mac) else s.naOwnersBySuffix.lookup x
  binding : s'.naStaticByMac = s.naStaticByMac

theorem OwnedBut.settles (h : OwnedBut (some mac) macDuid s) (hs : Settles mac suffix macDuid s s')
    (hbind : s.naStaticByMac.lookup mac = some suffix)
    (hfree : s.naOwnersBySuffix.lookup suffix = none) :
    Owned s' := by
  obtain ⟨hdynamic,hholder,hbound,hbinder,hstatic,honce,-⟩ := h
  have hothers := hs.others
  have hclient := hs.client
  constructor
  case static =>
    intro d l _ hl hst
    rw [hs.binding]
    refine ⟨by simp,?_⟩
    by_cases hd : some d = macDuid
    · obtain ⟨hmac,hsuffix,-⟩ := hclient d l hd hl
      rw [hmac, hsuffix, hbind]
    · exact (hstatic d l hd (hothers d hd ▸ hl) hst).2
  case once =>
    intro d d' l l' _ _ hl hl' hst hst' hmac
    -- no other client has a static lease of this MAC
    have hother : ∀ e k, some e ≠ macDuid → s'.naLeasesByDuid.lookup e = some k →
      k.isStatic = true →
        k.mac ≠ mac := by
      intro e k he hk hkst heq
      exact (hstatic e k he (hothers e he ▸ hk) hkst).1 (congrArg some heq)
    by_cases hd : some d = macDuid
    · by_cases hd' : some d' = macDuid
      · exact some.inj (hd.trans hd'.symm)
      · exact absurd (hmac.symm.trans (hclient d l hd hl).1) (hother d' l' hd' hl' hst')
    · by_cases hd' : some d' = macDuid
      · exact absurd (hmac.trans (hclient d' l' hd' hl').1) (hother d l hd hl hst)
      · exact honce d d' l l' hd hd' (hothers d hd ▸ hl) (hothers d' hd' ▸ hl') hst hst' hmac
  case moving => simp
  all_goals
    simp only [hs.owner, hs.binding]
    grind

theorem OwnedBut.settles_moveLease (h : OwnedBut (some mac) macDuid s) :
    Settles mac suffix macDuid s (moveLease now suffix macDuid
      { s with naOwnersBySuffix := s.naOwnersBySuffix.insert suffix (.staticMac mac) }) := by
  have hmoving := h.moving
  unfold moveLease
  split
  · rename_i d
    split
    · rename_i l hl
      have hmac : l.mac = mac := some.inj (hmoving d l rfl hl)
      refine ⟨fun d' hd' => ?_,fun d' l' hd' hl' => ?_,fun _ => lookup_insert_eq,rfl⟩
      · exact lookup_insert_eq.trans (if_neg fun heq => hd' (congrArg some heq))
      · rw [lookup_insert_eq, if_pos (some.inj hd')] at hl'
        obtain rfl := some.inj hl'
        exact ⟨hmac,rfl,rfl⟩
    · rename_i hl
      refine ⟨fun _ _ => rfl,fun d' l' hd' hl' => ?_,fun _ => lookup_insert_eq,rfl⟩
      obtain rfl := some.inj hd'
      cases hl.symm.trans hl'
  · exact ⟨fun _ _ => rfl,nofun,fun _ => lookup_insert_eq,rfl⟩

theorem Owned.claimSuffix (h : Owned s) (hw : walks order s = true)
    (hnew : s.naStaticByMac.lookup mac ≠ some suffix) (hocc : conflictOwner s mac suffix = none) :
    Owned (claimSuffix order now mac suffix s) := by
  unfold Dhcp6.claimSuffix
  dsimp only
  generalize hd : leaseDuidForMac order mac s = macDuid
  have hset : SetAside mac macDuid s _ := h.setsAside hnew
  generalize hs₁ : dropLeaseOwner macDuid _ = s₁ at hset ⊢
  have hbut : OwnedBut (some mac) macDuid s₁ := by
    refine h.setAside hset ?_ ?_
    · rintro d rfl
      exact leaseDuidForMac_some hd
    · rintro d l hl hst rfl
      exact hd.symm.trans (h.leaseDuid_eq hw hl hst)
  have hbind : s₁.naStaticByMac.lookup mac = some suffix := by
    simp [← hs₁]
  have hocc₁ : ∀ m, s₁.naOwnersBySuffix.lookup suffix ≠ some (.staticMac m) := by
    intro m hm
    rw [hset.owner] at hm
    unfold conflictOwner at hocc
    grind
  obtain ⟨hevict,hbind',hfree⟩ := hbut.evictOccupant hocc₁
  exact hevict.settles hevict.settles_moveLease (hbind' ▸ hbind) hfree

theorem Owned.bindMacSuffix (h : Owned s) (hw : walks order s = true) :
    Owned (bindMacSuffix order now mac suffix s).2 := by
  unfold Dhcp6.bindMacSuffix
  split
  · exact h
  · rename_i hnot
    split
    · exact h
    · rename_i hocc
      split
      · exact h
      · refine h.claimSuffix hw (fun hb => hnot ⟨hb,?_⟩) hocc
        exact h.bound mac suffix (by simp) hb

theorem OwnedBut.keepOrReassign {oldSuffix : UInt64} (h : OwnedBut m₀ d₀ s) (hd : some duid ≠ d₀)
    (hnew : s.naLeasesByDuid.lookup duid = none) (hl : lease.suffix = oldSuffix) :
    OwnedBut m₀ d₀ (keepOrReassign now oldSuffix duid lease s) := by
  unfold Dhcp6.keepOrReassign
  split
  · rename_i hold
    subst hl
    exact h.joins (joins_insert rfl rfl rfl) hd rfl hnew (AList.lookup_eq_none.mpr hold.2)
  · split
    · exact (h.allocate hd hnew rfl).1
    · exact h

structure Unbinds (mac : MacAddr) (s s' : NaStatus) : Prop where
  lease : ∀ d l, s'.naLeasesByDuid.lookup d = some l ↔
    s.naLeasesByDuid.lookup d = some l ∧ ¬(l.isStatic = true ∧ l.mac = mac)
  owner : ∀ x, s'.naOwnersBySuffix.lookup x =
    if s.naOwnersBySuffix.lookup x = some (.staticMac mac) then
      none else s.naOwnersBySuffix.lookup x
  binding : ∀ m, s'.naStaticByMac.lookup m = if m = mac then none else s.naStaticByMac.lookup m

theorem Owned.unbinds (h : Owned s) (hs : Unbinds mac s s') : Owned s' := by
  cases h
  constructor <;> simp only [hs.lease, hs.owner, hs.binding] <;> grind

theorem Owned.dropBinding {old : UInt64} (h : Owned s)
    (hold : s.naStaticByMac.lookup mac = some old) :
    dropBinding mac old s = { s with
      naStaticByMac := s.naStaticByMac.erase mac
      naOwnersBySuffix := s.naOwnersBySuffix.erase old } := by
  unfold Dhcp6.dropBinding
  rw [if_pos (h.bound mac old (by simp) hold)]

theorem Owned.removeMacBinding (h : Owned s) (hw : walks order s = true) :
    Owned (removeMacBinding order now mac s) := by
  unfold Dhcp6.removeMacBinding
  split
  · exact h
  · rename_i old hold
    have hbound := h.bound mac old (by simp) hold
    have hbinder := h.binder
    dsimp only
    rw [h.dropBinding hold]
    have howner : ∀ x, (s.naOwnersBySuffix.erase old).lookup x =
        if s.naOwnersBySuffix.lookup x = some (.staticMac mac) then none
        else s.naOwnersBySuffix.lookup x := by
      intro x
      rw [lookup_erase_eq]
      grind
    split
    · rename_i hd
      refine h.unbinds ⟨fun d l => ?_,howner,fun _ => lookup_erase_eq⟩
      constructor
      · intro hl
        refine ⟨hl,?_⟩
        rintro ⟨hst,rfl⟩
        cases hd.symm.trans (h.staticLeaseDuid_eq hw hl hst)
      · exact And.left
    · rename_i d hd
      obtain ⟨l,hl,hp⟩ := firstLease_some hd
      simp only [Bool.and_eq_true, decide_eq_true_eq] at hp
      obtain ⟨hmac,hst⟩ := hp
      rw [hl]
      have hunbinds : Unbinds mac s { s with
          naStaticByMac := s.naStaticByMac.erase mac
          naOwnersBySuffix := s.naOwnersBySuffix.erase old
          naLeasesByDuid := s.naLeasesByDuid.erase d } := by
        refine ⟨fun d' l' => ?_,howner,fun _ => lookup_erase_eq⟩
        have honce := h.once
        rw [lookup_erase_eq]
        grind
      refine (h.unbinds hunbinds).keepOrReassign (by simp) (lookup_erase_eq.trans (if_pos rfl)) ?_
      have hs := (h.static d l (by simp) hl hst).2
      rw [hmac, hold] at hs
      exact (some.inj hs).symm

structure Seats (duid : Duid) (mac : MacAddr) (suffix : UInt64) (s s' : NaStatus) : Prop where
  client : ∃ l, s'.naLeasesByDuid.lookup duid = some l ∧ l.mac = mac ∧ l.suffix = suffix ∧
    l.isStatic = true
  others : ∀ d l, d ≠ duid → (s'.naLeasesByDuid.lookup d = some l ↔
    s.naLeasesByDuid.lookup d = some l ∧ ¬(l.isStatic = true ∧ l.mac = mac))
  owner : ∀ x, s'.naOwnersBySuffix.lookup x =
    if s.naOwnersBySuffix.lookup x = some (.dynamicDuid duid) then none
    else s.naOwnersBySuffix.lookup x
  binding : s'.naStaticByMac = s.naStaticByMac

theorem Owned.seats (h : Owned s) (hs : Seats duid mac suffix s s')
    (hbind : s.naStaticByMac.lookup mac = some suffix) : Owned s' := by
  obtain ⟨hdynamic,hholder,hbound,hbinder,hstatic,honce,-⟩ := h
  obtain ⟨l₀,hl₀,hmac₀,hsuffix₀,hst₀⟩ := hs.client
  have hothers := hs.others
  constructor
  case dynamic =>
    intro d l _ hl hst
    rw [hs.owner]
    by_cases hd : d = duid
    · grind
    · have hold := (hothers d l hd).mp hl
      grind
  case once =>
    intro d d' l l' _ _ hl hl' hst hst' hmac
    by_cases hd : d = duid
    · by_cases hd' : d' = duid
      · rw [hd, hd']
      · have hold := (hothers d' l' hd').mp hl'
        grind
    · have hold := (hothers d l hd).mp hl
      by_cases hd' : d' = duid
      · grind
      · have hold' := (hothers d' l' hd').mp hl'
        exact honce d d' l l' (by simp) (by simp) hold.1 hold'.1 hst hst' hmac
  case moving => simp
  all_goals
    simp only [hs.owner, hs.binding]
    grind

@[simp] theorem dropStaticLease_frame :
    (dropStaticLease order duid mac s).naOwnersBySuffix = s.naOwnersBySuffix ∧
      (dropStaticLease order duid mac s).naStaticByMac = s.naStaticByMac := by
  unfold dropStaticLease
  split
  · split <;> exact ⟨rfl,rfl⟩
  · exact ⟨rfl,rfl⟩

theorem lookup_dropStaticLease {d : Duid} (hd : d ≠ duid)
    (honly : ∀ d l, s.naLeasesByDuid.lookup d = some l → l.isStatic = true → l.mac = mac →
      staticLeaseDuidForMac order mac s = some d) :
    (dropStaticLease order duid mac s).naLeasesByDuid.lookup d = some l ↔
      s.naLeasesByDuid.lookup d = some l ∧ ¬(l.isStatic = true ∧ l.mac = mac) := by
  unfold dropStaticLease
  split
  · rename_i old hold
    obtain ⟨l',hl',hp⟩ := firstLease_some hold
    split
    · rw [lookup_erase_eq]
      grind
    · grind
  · grind

section
variable (h : Owned s)
include h

theorem Owned.insertStaticNaLease (hw : walks order s = true)
    (hbind : s.naStaticByMac.lookup mac = some suffix) :
    Owned (insertStaticNaLease order duid mac suffix hostname now s) := by
  have hsuffix := h.bound mac suffix (by simp) hbind
  have howner : ∀ x, (dropLeaseOwner (some duid) s).naOwnersBySuffix.lookup x =
      if s.naOwnersBySuffix.lookup x = some (.dynamicDuid duid) then none
      else s.naOwnersBySuffix.lookup x := by
    intro x
    rw [lookup_dropLeaseOwner x fun d hd => (h.holder x d hd).2.imp fun _ hl => ⟨hl.1,hl.2.1⟩]
    simp only [some.injEq, exists_eq_left']
  have honly : ∀ d l, s.naLeasesByDuid.lookup d = some l → l.isStatic = true → l.mac = mac →
      staticLeaseDuidForMac order mac (dropLeaseOwner (some duid) s) = some d := by
    rintro d l hl hst rfl
    simp only [staticLeaseDuidForMac, firstLease, dropLeaseOwner_frame.1]
    exact h.staticLeaseDuid_eq hw hl hst
  have hseats : Seats duid mac suffix s
      (Dhcp6.insertStaticNaLease order duid mac suffix hostname now s) := by
    refine ⟨⟨_,lookup_insert_eq.trans (if_pos rfl),rfl,rfl,rfl⟩,fun d l hd => ?_,fun x => ?_,?_⟩
    · refine ((lookup_insert_eq.trans (if_neg hd)).congr_left.trans ?_)
      rw [lookup_dropStaticLease hd]
      · rw [dropLeaseOwner_frame.1]
      · rw [dropLeaseOwner_frame.1]
        exact honly
    · refine lookup_insert_eq.trans ?_
      rw [dropStaticLease_frame.1, howner]
      dsimp only [offeredLease]
      grind
    · exact dropStaticLease_frame.2.trans dropLeaseOwner_frame.2
  exact h.seats hseats hbind

theorem Owned.offerNa (hw : walks order s = true) :
    Owned (offerNa order now duid mac hostname s).2 := by
  unfold Dhcp6.offerNa
  split
  · rename_i suffix hbind
    exact h.insertStaticNaLease hw hbind
  · split
    · exact h
    · rename_i hnew
      split
      · exact h
      · exact (h.allocate (by simp) hnew rfl).1

/-- A lease keeps its suffix, its MAC and its kind. -/
theorem Owned.update (hl : s.naLeasesByDuid.lookup duid = some l)
    (hsuffix : lease.suffix = l.suffix) (hmac : lease.mac = l.mac)
    (hst : lease.isStatic = l.isStatic) :
    Owned { s with naLeasesByDuid := s.naLeasesByDuid.insert duid lease } := by
  cases h
  constructor <;> simp only [lookup_insert_eq] <;> grind

theorem Owned.confirmNa : Owned (confirmNa now duid s).2 := by
  unfold Dhcp6.confirmNa
  split
  · exact h
  · split
    · rename_i l hl
      exact h.update hl rfl rfl rfl
    · exact h

theorem Owned.consumePrevSuffix : Owned (consumePrevSuffix duid s) := by
  unfold Dhcp6.consumePrevSuffix
  split
  · rename_i l hl
    exact h.update hl rfl rfl rfl
  · exact h

theorem Owned.slaac (entries : AList fun _ : Ipv6Addr => SlaacEntry) :
    Owned { s with slaacEntries := entries } :=
  ⟨h.dynamic,h.holder,h.bound,h.binder,h.static,h.once,h.moving⟩

theorem Owned.step {e : NaEvent} (hs : naStep s e = some s') : Owned s' := by
  cases e with
  | offerNa order now duid mac hostname =>
    obtain ⟨hw,hs⟩ := ite_none_right_eq_some.mp hs
    exact some.inj hs ▸ h.offerNa hw
  | confirmNa now duid => exact some.inj hs ▸ h.confirmNa
  | consumePrevSuffix duid => exact some.inj hs ▸ h.consumePrevSuffix
  | releaseNa duid => exact some.inj hs ▸ h.leaves (h.removeNaLease_leaves duid)
  | cleanExpiredNa now => exact some.inj hs ▸ (h.cleanExpiredNa now).1
  | bindMacSuffix order now mac suffix =>
    obtain ⟨hw,hs⟩ := ite_none_right_eq_some.mp hs
    exact some.inj hs ▸ h.bindMacSuffix hw
  | removeMacBinding order now mac =>
    obtain ⟨hw,hs⟩ := ite_none_right_eq_some.mp hs
    exact some.inj hs ▸ h.removeMacBinding hw
  | recordSlaacAddr now mac ip =>
    obtain rfl := some.inj hs
    unfold recordSlaacAddr
    split
    · exact h
    · exact h.slaac _
  | touchSlaacAddr now mac ip =>
    obtain rfl := some.inj hs
    unfold touchSlaacAddr
    split
    · exact h
    · split
      · exact h
      · exact h.slaac _
  | touchSlaacProbe now ip =>
    obtain rfl := some.inj hs
    unfold touchSlaacProbe
    split
    · exact h
    · split
      · exact h
      · exact h.slaac _
  | slaacExpireSweep now t1 t2 => exact some.inj hs ▸ h.slaac _

end

def DistinctDevices (devices : List EnrolledDevice) : Prop :=
  devices.Pairwise fun a b => a.mac ≠ b.mac ∧
    ∀ x y, a.ipv6 = some x → b.ipv6 = some y → ipv6Suffix x ≠ ipv6Suffix y

theorem Owned.bindNew (h : Owned s) (hmac : s.naStaticByMac.lookup mac = none)
    (hsuffix : s.naOwnersBySuffix.lookup suffix = none) : Owned { s with
      naStaticByMac := s.naStaticByMac.insert mac suffix
      naOwnersBySuffix := s.naOwnersBySuffix.insert suffix (.staticMac mac) } := by
  have hdynamic := h.dynamic
  have hholder := h.holder
  have hbound := h.bound
  have hbinder := h.binder
  have hstatic := h.static
  refine ⟨?_,?_,?_,?_,?_,h.once,by simp⟩ <;> simp only [lookup_insert_eq] <;> grind

/- The devices that are still to come are new to the maps. -/
theorem Owned.enrollAll (h : Owned s) (hdistinct : DistinctDevices devices)
    (hnew : ∀ a ∈ devices, s.naStaticByMac.lookup a.mac = none ∧
      ∀ x, a.ipv6 = some x → s.naOwnersBySuffix.lookup (ipv6Suffix x) = none) :
    Owned (devices.foldl enroll s) := by
  induction devices generalizing s with
  | nil => exact h
  | cons a devices ih =>
    obtain ⟨hhead,htail⟩ := pairwise_cons.mp hdistinct
    cases ha : a.ipv6 with
    | none =>
      have hsame : enroll s a = s := by simp [enroll, ha]
      rw [foldl_cons, hsame]
      exact ih h htail fun b hb => hnew b (mem_cons_of_mem a hb)
    | some x =>
      obtain ⟨hmac,hsuffix⟩ := hnew a mem_cons_self
      have hsuffix := hsuffix x ha
      have henroll : enroll s a = { s with
          naStaticByMac := s.naStaticByMac.insert a.mac (ipv6Suffix x)
          naOwnersBySuffix := s.naOwnersBySuffix.insert (ipv6Suffix x) (.staticMac a.mac) } := by
        simp [enroll, ha]
      rw [foldl_cons, henroll]
      refine ih (h.bindNew hmac hsuffix) htail fun b hb => ?_
      obtain ⟨hb₁,hb₂⟩ := hnew b (mem_cons_of_mem a hb)
      obtain ⟨hne₁,hne₂⟩ := hhead b hb
      simp only [lookup_insert_eq]
      exact ⟨(if_neg (Ne.symm hne₁)).trans hb₁,fun y hy =>
        (if_neg (Ne.symm (hne₂ x y ha hy))).trans (hb₂ y hy)⟩

theorem owned_new {naConfig : Option DHCPv6IANAConfig}
    {preferred valid : UInt32} (hdistinct : DistinctDevices devices) :
    Owned (NaStatus.new naConfig devices preferred valid) := by
  refine Owned.enrollAll ?_ hdistinct fun _ _ => ⟨rfl,fun _ _ => rfl⟩
  constructor <;> simp

structure OwnersAgree (s : NaStatus) : Prop where
  leaseOwner : ∀ d l, s.naLeasesByDuid.lookup d = some l → l.isStatic = false →
    s.naOwnersBySuffix.lookup l.suffix = some (.dynamicDuid d)
  ownerLease : ∀ x d, s.naOwnersBySuffix.lookup x = some (.dynamicDuid d) →
    ∃ l, s.naLeasesByDuid.lookup d = some l ∧ l.suffix = x
  bindingOwner : ∀ m x, s.naStaticByMac.lookup m = some x →
    s.naOwnersBySuffix.lookup x = some (.staticMac m)
  suffixOnce : ∀ d d' l l', s.naLeasesByDuid.lookup d = some l →
    s.naLeasesByDuid.lookup d' = some l' → l.suffix = l'.suffix → d = d'

theorem Owned.agree (h : Owned s) : OwnersAgree s := by
  refine ⟨fun d l => h.dynamic d l (by simp),?_,fun m x => h.bound m x (by simp),?_⟩
  · intro x d hx
    obtain ⟨-,l,hl,hsuffix,-⟩ := h.holder x d hx
    exact ⟨l,hl,hsuffix⟩
  · intro d d' l l' hl hl' hsuffix
    -- the owner of the suffix tells whose lease it is, and of which kind
    have howner : ∀ e k, s.naLeasesByDuid.lookup e = some k → s.naOwnersBySuffix.lookup k.suffix =
        if k.isStatic then some (.staticMac k.mac) else some (.dynamicDuid e) := by
      intro e k hk
      cases hst : k.isStatic with
      | true => exact h.bound _ _ (by simp) (h.static e k (by simp) hk hst).2
      | false => exact h.dynamic e k (by simp) hk hst
    have hd := howner d l hl
    have hd' := howner d' l' hl'
    have honce := h.once d d' l l' (by simp) (by simp) hl hl'
    grind

/-- Starting from devices with MACs and suffixes of their own, the maps of the server agree whatever
is asked of it, in whatever order. -/
theorem ownersAgree_of_runs {naConfig : Option DHCPv6IANAConfig} {devices : List EnrolledDevice}
    {preferred valid : UInt32} (hdistinct : DistinctDevices devices)
    (hr : Runs naStep (fun _ _ => True) (NaStatus.new naConfig devices preferred valid) s) :
    OwnersAgree s :=
  Owned.agree (hr.invariant Owned (fun _ _ _ h _ hs => h.step hs) (owned_new hdistinct))

def sampleConfig : DHCPv6IANAConfig := ⟨64,0x100,some 0x110,300,600⟩

def printer : EnrolledDevice := ⟨0x10,some 0xfd00000000000000_0000000000000005⟩

def sampleHistory : List NaEvent :=
  [.offerNa [] 0 [1] 0x11 none, .offerNa [[1]] 1 [2] 0x12 none, .offerNa [[2], [1]] 2 [3] 0x10 none,
    .confirmNa 3 [1], .bindMacSuffix [[3], [2], [1]] 4 0x12 0x106, .recordSlaacAddr 5 0x13 0x7,
    .removeMacBinding [[1], [2], [3]] 6 0x10, .cleanExpiredNa 200]

theorem ownersAgree_sample : ∃ s,
    Runs naStep (fun _ _ => True) (NaStatus.new (some sampleConfig) [printer] 300 600) s ∧
      (s.naLeasesByDuid.lookup [2]).any (·.suffix = 0x106) = true ∧ OwnersAgree s :=
  runs_and (runs_of_steps _ _ sampleHistory _ (by decide +kernel)) fun _ hrun _ =>
    ownersAgree_of_runs (pairwise_singleton _ _) hrun

end Landscape.Dhcp6
