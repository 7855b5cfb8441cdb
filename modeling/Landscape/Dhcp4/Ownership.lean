import Landscape.Dhcp4.Server
import Landscape.Lib.Run

/-! Who holds which address: leases, bindings and marks agree as long as no client releases an
address that is another one's. -/
namespace Landscape.Dhcp4
open Route Run Table Option AList

variable {s s' : AssignStatus} {m mac : MacAddr} {a ip : Ipv4Addr} {c : OfferedCache}
  {e entry : StaticBindingEntry} {now turns : Nat} {hostname : Option String}
  {r : Option Ipv4Addr × AssignStatus} {z : MacAddr}

/-- Bindings are one to one and mark their addresses; every lease has its mark, and a dynamic lease
has an address of its own. -/
structure Sound (s : AssignStatus) : Prop where
  bound : ∀ m e, s.staticBindings.lookup m = some e →
    s.ipOwner.lookup e.ipv4 = some m ∧ s.allocatedHost.lookup e.ipv4 = some (.static m)
  owned : ∀ a m, s.ipOwner.lookup a = some m →
    ∃ e, s.staticBindings.lookup m = some e ∧ e.ipv4 = a
  static : ∀ m c, s.offeredIp.lookup m = some c → c.isStatic = true →
    ∃ e, s.staticBindings.lookup m = some e ∧ e.ipv4 = c.ip
  dynamic : ∀ m c, s.offeredIp.lookup m = some c → c.isStatic = false →
    s.staticBindings.lookup m = none ∧ s.allocatedHost.lookup c.ip = some .dynamic
  once : ∀ m m' c c', s.offeredIp.lookup m = some c → s.offeredIp.lookup m' = some c' →
    c.isStatic = false → c'.isStatic = false → c.ip = c'.ip → m = m'

def Unique (s : AssignStatus) : Prop :=
  ∀ m m' c c', s.offeredIp.lookup m = some c → s.offeredIp.lookup m' = some c' →
    c.ip = c'.ip → m = m'

theorem Sound.unique (h : Sound s) : Unique s := by
  intro m m' c c' hc hc' hip
  cases hs : c.isStatic with
  | true =>
    obtain ⟨e,he,hea⟩ := h.static m c hc hs
    have hb := h.bound m e he
    cases hs' : c'.isStatic with
    | true =>
      obtain ⟨e',he',hea'⟩ := h.static m' c' hc' hs'
      have hb' := h.bound m' e' he'
      rw [hea', ← hip, ← hea, hb.1] at hb'
      exact some.inj hb'.1
    | false =>
      -- the mark of the address cannot be of both kinds
      have hd := (h.dynamic m' c' hc' hs').2
      rw [← hip, ← hea, hb.2] at hd
      cases hd
  | false =>
    have hd := (h.dynamic m c hc hs).2
    cases hs' : c'.isStatic with
    | true =>
      obtain ⟨e',he',hea'⟩ := h.static m' c' hc' hs'
      have hb' := (h.bound m' e' he').2
      rw [hea', ← hip, hd] at hb'
      cases hb'
    | false => exact h.once m m' c c' hc hc' hs hs' hip

theorem Sound.lease (h : Sound s) (hc : c.isStatic = false)
    (hbind : s.staticBindings.lookup mac = none) (hfree : s.allocatedHost.lookup c.ip = none) :
    Sound (lease s mac c) := by
  -- an address that is bound is marked, the new one is not
  cases h
  constructor <;> simp only [Dhcp4.lease, lookup_insert_eq] <;> grind

def SameLeases (s s' : AssignStatus) : Prop :=
  ∀ m c', s'.offeredIp.lookup m = some c' →
    ∃ c, s.offeredIp.lookup m = some c ∧ c.ip = c'.ip ∧ c.isStatic = c'.isStatic

theorem Sound.sameLeases (h : Sound s) {offered : AList fun _ : MacAddr => OfferedCache}
    (hs : SameLeases s { s with offeredIp := offered }) :
    Sound { s with offeredIp := offered } := by
  refine ⟨h.bound,h.owned,?_,?_,?_⟩
  · intro m c' hc' hst
    obtain ⟨c,hc,hip,hst'⟩ := hs m c' hc'
    rw [← hip]
    exact h.static m c hc (hst'.trans hst)
  · intro m c' hc' hst
    obtain ⟨c,hc,hip,hst'⟩ := hs m c' hc'
    rw [← hip]
    exact h.dynamic m c hc (hst'.trans hst)
  · intro m m' c₁' c₂' hc₁' hc₂' hst₁ hst₂ hip
    obtain ⟨c₁,hc₁,hip₁,hst₁'⟩ := hs m c₁' hc₁'
    obtain ⟨c₂,hc₂,hip₂,hst₂'⟩ := hs m' c₂' hc₂'
    refine h.once m m' c₁ c₂ hc₁ hc₂ (hst₁'.trans hst₁) (hst₂'.trans hst₂) ?_
    rw [hip₁, hip₂, hip]

theorem sameLeases_insert {c' : OfferedCache} (hc : s.offeredIp.lookup mac = some c)
    (hip : c.ip = c'.ip) (hst : c.isStatic = c'.isStatic) :
    SameLeases s { s with offeredIp := s.offeredIp.insert mac c' } := by
  intro m c₁ hc₁
  rcases of_lookup_insert hc₁ with ⟨hm,⟨⟩⟩ | ⟨-,hc₁⟩
  · exact ⟨c,hm ▸ hc,hip,hst⟩
  · exact ⟨c₁,hc₁,rfl,rfl⟩

theorem sameLeases_erase (z : MacAddr) :
    SameLeases s { s with offeredIp := s.offeredIp.erase z } := by
  intro m c hc
  exact ⟨c,(of_lookup_erase hc).2,rfl,rfl⟩

theorem Sound.setPrevIp (h : Sound s) (z : MacAddr) (ip : Ipv4Addr) : Sound (setPrevIp z ip s) := by
  unfold Dhcp4.setPrevIp
  split
  · rename_i c hc
    exact h.sameLeases (sameLeases_insert hc rfl rfl)
  · exact h

/-- A mark may go that no binding and no dynamic lease needs. -/
theorem Sound.eraseMark (h : Sound s) (hown : s.ipOwner.lookup a = none)
    (hfree : ∀ m c, s.offeredIp.lookup m = some c → c.isStatic = false → c.ip ≠ a) :
    Sound { s with allocatedHost := s.allocatedHost.erase a } := by
  refine ⟨?_,h.owned,h.static,?_,h.once⟩
  · intro m e he
    have hb := h.bound m e he
    have hne : e.ipv4 ≠ a := by
      intro heq
      rw [heq, hown] at hb
      cases hb.1
    rw [lookup_erase_eq, if_neg hne]
    exact hb
  · intro m c hc hst
    rw [lookup_erase_eq, if_neg (hfree m c hc hst)]
    exact h.dynamic m c hc hst

theorem mem_expiredIps : a ∈ expiredIps now s ↔
    ∃ m c, s.offeredIp.lookup m = some c ∧ expired now c = true ∧ c.ip = a := by
  simp only [expiredIps, List.mem_map, List.mem_filter, Sigma.exists]
  constructor
  · rintro ⟨m,c,⟨hmem,hexp⟩,rfl⟩
    exact ⟨m,c,mem_lookup_iff.mpr hmem,hexp,rfl⟩
  · rintro ⟨m,c,hc,hexp,rfl⟩
    exact ⟨m,c,⟨mem_lookup_iff.mp hc,hexp⟩,rfl⟩

theorem clean_mark : (cleanExpireIp now s).allocatedHost.lookup a =
    if a ∈ expiredIps now s then none else (s.allocatedHost.lookup a).filter (· ≠ .declined) := by
  simp only [cleanExpireIp, lookup_eraseAll, lookup_retain]

theorem clean_offered : (cleanExpireIp now s).offeredIp.lookup m =
    (s.offeredIp.lookup m).filter fun c => !expired now c := by
  simp only [cleanExpireIp, lookup_retain]

theorem expired_dynamic (h : expired now c = true) : c.isStatic = false := by
  simp only [expired, Bool.and_eq_true, Bool.not_eq_true'] at h
  exact h.1

theorem Sound.clean (h : Sound s) (now : Nat) : Sound (cleanExpireIp now s) := by
  have hkept : ∀ m c, (cleanExpireIp now s).offeredIp.lookup m = some c →
      s.offeredIp.lookup m = some c ∧ expired now c = false := by
    intro m c hc
    rw [clean_offered, filter_eq_some_iff, Bool.not_eq_true'] at hc
    exact hc
  refine ⟨?_,h.owned,?_,?_,?_⟩
  · intro m e he
    have hb := h.bound m e he
    refine ⟨hb.1,?_⟩
    have hnot : e.ipv4 ∉ expiredIps now s := by
      rw [mem_expiredIps]
      rintro ⟨m',c,hc,hexp,hip⟩
      have hd := (h.dynamic m' c hc (expired_dynamic hexp)).2
      rw [hip, hb.2] at hd
      cases hd
    rw [clean_mark, if_neg hnot, hb.2]
    rfl
  · intro m c hc hst
    exact h.static m c (hkept m c hc).1 hst
  · intro m c hc hst
    obtain ⟨hc,hlive⟩ := hkept m c hc
    have hd := h.dynamic m c hc hst
    refine ⟨hd.1,?_⟩
    have hnot : c.ip ∉ expiredIps now s := by
      rw [mem_expiredIps]
      rintro ⟨m',c',hc',hexp,hip⟩
      have hm := h.once m' m c' c hc' hc (expired_dynamic hexp) hst hip
      rw [hm, hc] at hc'
      rw [← some.inj hc', hlive] at hexp
      cases hexp
    rw [clean_mark, if_neg hnot, hd.2]
    rfl
  · intro m m' c c' hc hc' hst hst' hip
    exact h.once m m' c c' (hkept m c hc).1 (hkept m' c' hc').1 hst hst' hip

/-- What holds of the result of a probe: nothing but expiry before the lease. -/
theorem probe_rule {P : AssignStatus → Prop} {Q : Option Ipv4Addr × AssignStatus → Prop}
    (hclean : ∀ s, P s → P (cleanExpireIp now s)) (hnone : ∀ s, P s → Q (none, s))
    (hlease : ∀ s seed, P s → s.rangeCapacity ≠ 0 → probed s seed ∉ s.allocatedHost →
      Q (some (probed s seed), lease s mac
        (dynamicCache hostname (probed s seed) now offerValidTime)))
    {seed : UInt32} (hr : probe now mac hostname turns seed s = .ended r) (hs : P s) : Q r := by
  induction turns generalizing seed s with
  | zero => cases hr
  | succ turns ih =>
    have hgave : P (gaveUp now s).2 := by
      unfold gaveUp
      split
      · exact hclean s hs
      · exact hs
    simp only [probe] at hr
    split at hr
    · cases hr
      exact hnone _ hgave
    · split at hr
      · cases hr
      rename_i hc
      split at hr
      · exact ih hr hgave
      · rename_i hfree
        cases hr
        exact hlease _ _ hgave hc hfree

/-- A MAC with a binding gets its address again; nothing else changes. -/
theorem Sound.offerStatic (h : Sound s) (he : s.staticBindings.lookup mac = some e) (now : Nat) :
    Sound { s with
      offeredIp := s.offeredIp.insert mac
        (staticCache (hostname.or e.hostname) e.ipv4 now offerValidTime)
      allocatedHost := s.allocatedHost.insert e.ipv4 (.static mac) } := by
  -- two bindings have different addresses
  cases h
  constructor <;> simp only [staticCache, lookup_insert_eq] <;> grind

/-- A lease of a bound MAC is at the bound address. -/
theorem Sound.offered_bound (h : Sound s) (he : s.staticBindings.lookup mac = some e)
    (hc : s.offeredIp.lookup mac = some c) : c.ip = e.ipv4 := by
  cases hst : c.isStatic with
  | true =>
    obtain ⟨e',he',hip⟩ := h.static mac c hc hst
    rw [he] at he'
    rw [← hip, some.inj he']
  | false =>
    have hd := (h.dynamic mac c hc hst).1
    rw [he] at hd
    cases hd

theorem Sound.offer (h : Sound s)
    (hr : offerIp turns now mac hostname s = .ended r) : Sound r.2 := by
  unfold offerIp at hr
  split at hr
  · rename_i e he
    cases hr
    split
    · rename_i old hold
      rw [if_neg (fun hne => hne (h.offered_bound he hold))]
      exact h.offerStatic he now
    · exact h.offerStatic he now
  · rename_i hbind
    split at hr
    · cases hr
      exact h
    · refine probe_rule (P := fun s => Sound s ∧ s.staticBindings.lookup mac = none)
        (Q := fun r => Sound r.2) ?_ ?_ ?_ hr ⟨h,hbind⟩
      · rintro s ⟨hs,hb⟩
        exact ⟨hs.clean now,hb⟩
      · rintro s ⟨hs,-⟩
        exact hs
      · rintro s seed ⟨hs,hb⟩ - hfree
        exact hs.lease rfl hb (lookup_eq_none.mpr hfree)

theorem conflicts_false (h : conflictsWithStaticBinding s mac ip = false)
    (he : s.staticBindings.lookup mac = some e) : e.ipv4 = ip := by
  simp only [conflictsWithStaticBinding, he, Bool.or_eq_false_iff, any_some] at h
  simpa using h.1

theorem Sound.ack (h : Sound s) {leaseTime : UInt32} :
    Sound (ackRequest now mac ip hostname leaseTime s).2 := by
  unfold ackRequest
  split
  · exact h
  · rename_i hconf
    split
    · rename_i c hc
      split
      · exact h.sameLeases (sameLeases_insert hc rfl rfl)
      · exact h
    · split
      · exact h
      · rename_i hfree
        split
        · exact h
        · have hmark := lookup_eq_none.mpr hfree
          refine h.lease rfl ?_ hmark
          -- a bound MAC may only ask for its own address, which is marked
          cases he : s.staticBindings.lookup mac with
          | none => rfl
          | some e =>
            have hip := conflicts_false (Bool.eq_false_iff.mpr hconf) he
            have hb := (h.bound mac e he).2
            rw [hip, hmark] at hb
            cases hb

theorem Sound.decline (h : Sound s) : Sound (addDeclineIp ip s) := by
  unfold addDeclineIp
  split
  · exact h
  · rename_i hfree
    have hmark := lookup_eq_none.mpr hfree
    have hkeep : ∀ a src, s.allocatedHost.lookup a = some src →
        (s.allocatedHost.insert ip .declined).lookup a = some src := by
      intro a src ha
      rw [lookup_insert_eq, if_neg]
      · exact ha
      · rintro rfl
        rw [hmark] at ha
        cases ha
    refine ⟨?_,h.owned,h.static,?_,h.once⟩
    · intro m e he
      exact ⟨(h.bound m e he).1,hkeep _ _ (h.bound m e he).2⟩
    · intro m c hc hst
      exact ⟨(h.dynamic m c hc hst).1,hkeep _ _ (h.dynamic m c hc hst).2⟩

/-- What a binding does to the four maps: the MAC's old address becomes free, and a MAC that owned
the new one loses its binding. -/
structure Binds (mac : MacAddr) (entry : StaticBindingEntry) (s s' : AssignStatus) : Prop where
  binding : ∀ m, s'.staticBindings.lookup m = if m = mac then some entry else
    if s.ipOwner.lookup entry.ipv4 = some m then none else s.staticBindings.lookup m
  owner : ∀ a, s'.ipOwner.lookup a = if a = entry.ipv4 then some mac else
    if s.ipOwner.lookup a = some mac then none else s.ipOwner.lookup a
  mark : ∀ a, s'.allocatedHost.lookup a = if a = entry.ipv4 then some (.static mac) else
    if s.ipOwner.lookup a = some mac then none else s.allocatedHost.lookup a
  offered : ∀ m, s'.offeredIp.lookup m = if m = mac then s'.offeredIp.lookup mac else
    if s.ipOwner.lookup entry.ipv4 = some m then none else s.offeredIp.lookup m
  lease : ∃ c, s'.offeredIp.lookup mac = some c ∧ c.ip = entry.ipv4 ∧ c.isStatic = true

theorem Sound.binds (h : Sound s) (hs : Binds mac entry s s')
    (hfree : ∀ m c, s.offeredIp.lookup m = some c → c.isStatic = false → c.ip ≠ entry.ipv4) :
    Sound s' := by
  obtain ⟨hbinding,howner,hmark,hoffered,cm,hcm,hcmip,hcmst⟩ := hs
  cases h
  constructor <;> grind

section Lookups
variable {s : AssignStatus} {mac m : MacAddr} {ip a : Ipv4Addr}

theorem dropOldEntry_binding : (dropOldEntry mac s).staticBindings.lookup m =
    if m = mac then none else s.staticBindings.lookup m := by
  unfold dropOldEntry
  split
  · rw [lookup_erase_eq]
  · rename_i he
    split
    · rename_i hm
      rw [hm, he]
    · rfl

theorem dropOldEntry_offered (hm : m ≠ mac) :
    (dropOldEntry mac s).offeredIp.lookup m = s.offeredIp.lookup m := by
  unfold dropOldEntry
  split
  · rw [lookup_erase_eq, if_neg hm]
  · rfl

/- The address of the binding is the only one the MAC owns. -/
theorem Sound.owner_iff (h : Sound s) (he : s.staticBindings.lookup mac = some e) :
    s.ipOwner.lookup a = some mac ↔ a = e.ipv4 := by
  constructor
  · intro ha
    obtain ⟨e',he',hip⟩ := h.owned a mac ha
    rw [he] at he'
    rw [← hip, some.inj he']
  · rintro rfl
    exact (h.bound mac e he).1

theorem Sound.owner_ne (h : Sound s) (he : s.staticBindings.lookup mac = none) :
    s.ipOwner.lookup a ≠ some mac := by
  intro ha
  obtain ⟨e',he',-⟩ := h.owned a mac ha
  rw [he] at he'
  cases he'

theorem dropOldEntry_owner (h : Sound s) : (dropOldEntry mac s).ipOwner.lookup a =
    if s.ipOwner.lookup a = some mac then none else s.ipOwner.lookup a := by
  unfold dropOldEntry
  split
  · rename_i e he
    simp only [h.owner_iff he, lookup_erase_eq]
  · rename_i he
    rw [if_neg (h.owner_ne he)]

theorem dropOldEntry_mark (h : Sound s) : (dropOldEntry mac s).allocatedHost.lookup a =
    if s.ipOwner.lookup a = some mac then none else s.allocatedHost.lookup a := by
  unfold dropOldEntry
  split
  · rename_i e he
    simp only [h.owner_iff he, (h.bound mac e he).2, if_true, lookup_erase_eq]
  · rename_i he
    rw [if_neg (h.owner_ne he)]

theorem takeOver_binding : (takeOver mac ip s).staticBindings.lookup m =
    if m ≠ mac ∧ s.ipOwner.lookup ip = some m then none else s.staticBindings.lookup m := by
  unfold takeOver
  dsimp only
  split
  · grind [lookup_erase_eq]
  · grind

theorem takeOver_offered : (takeOver mac ip s).offeredIp.lookup m =
    if m ≠ mac ∧ s.ipOwner.lookup ip = some m then none else s.offeredIp.lookup m := by
  unfold takeOver
  dsimp only
  split
  · grind [lookup_erase_eq]
  · grind

theorem takeOver_owner : (takeOver mac ip s).ipOwner = s.ipOwner.insert ip mac := by
  unfold takeOver
  dsimp only
  split
  · split <;> rfl
  · rfl

theorem takeOver_mark : (takeOver mac ip s).allocatedHost = s.allocatedHost := by
  unfold takeOver
  dsimp only
  split
  · split <;> rfl
  · rfl

variable {bindings : AList fun _ : MacAddr => StaticBindingEntry}

theorem freeOldIp_owner (h : Sound s) :
    (freeOldIp (s.staticBindings.lookup mac)
      { s with staticBindings := bindings }).ipOwner.lookup a =
      if s.ipOwner.lookup a = some mac then none else s.ipOwner.lookup a := by
  cases he : s.staticBindings.lookup mac with
  | none => exact (if_neg (h.owner_ne he)).symm
  | some e => simp only [freeOldIp, h.owner_iff he, lookup_erase_eq]

theorem freeOldIp_mark (h : Sound s) :
    (freeOldIp (s.staticBindings.lookup mac)
      { s with staticBindings := bindings }).allocatedHost.lookup a =
      if s.ipOwner.lookup a = some mac then none else s.allocatedHost.lookup a := by
  cases he : s.staticBindings.lookup mac with
  | none => exact (if_neg (h.owner_ne he)).symm
  | some e => simp only [freeOldIp, h.owner_iff he, lookup_erase_eq]

theorem freeOldIp_binding (old : Option StaticBindingEntry) :
    (freeOldIp old s).staticBindings = s.staticBindings := by
  cases old <;> rfl

theorem freeOldIp_offered (old : Option StaticBindingEntry) :
    (freeOldIp old s).offeredIp = s.offeredIp := by
  cases old <;> rfl

end Lookups

theorem bindMac_binds (h : Sound s) (now : Nat) (mac : MacAddr) :
    Binds mac entry s (bindMac now mac entry s) := by
  refine ⟨?_,?_,?_,?_,?_⟩
  · intro m
    simp only [bindMac, reserve, lookup_insert_eq, takeOver_binding, dropOldEntry_binding,
      dropOldEntry_owner h]
    grind
  · intro a
    simp only [bindMac, reserve, takeOver_owner, lookup_insert_eq, dropOldEntry_owner h]
  · intro a
    simp only [bindMac, reserve, takeOver_mark, lookup_insert_eq, dropOldEntry_mark h]
  · intro m
    simp only [bindMac, reserve, lookup_insert_eq, takeOver_offered, dropOldEntry_owner h]
    grind [dropOldEntry_offered]
  · simp only [bindMac, reserve, lookup_insert_eq]
    exact ⟨_,rfl,rfl,rfl⟩

theorem enroll_binds (h : Sound s) {device : EnrolledDevice} (hip : device.ipv4 = some ip) :
    Binds device.mac ⟨ip,device.hostname⟩ s (enroll s device) := by
  simp only [enroll, hip]
  refine ⟨?_,?_,?_,?_,?_⟩
  · intro m
    simp only [takeOver_binding, freeOldIp_binding, freeOldIp_owner h, lookup_insert_eq]
    grind
  · intro a
    simp only [takeOver_owner, lookup_insert_eq, freeOldIp_owner h]
  · intro a
    simp only [takeOver_mark, lookup_insert_eq, freeOldIp_mark h]
  · intro m
    simp only [lookup_insert_eq, takeOver_offered, freeOldIp_offered, freeOldIp_owner h]
    grind
  · simp only [lookup_insert_eq]
    exact ⟨_,rfl,rfl,rfl⟩

structure Fresh (s : AssignStatus) : Prop where
  sound : Sound s
  static : ∀ m c, s.offeredIp.lookup m = some c → c.isStatic = true
  marks : ∀ a, s.allocatedHost.lookup a ≠ some .dynamic

theorem Fresh.enroll (h : Fresh s) (device : EnrolledDevice) : Fresh (enroll s device) := by
  cases hip : device.ipv4 with
  | none =>
    rw [show Dhcp4.enroll s device = s by simp only [Dhcp4.enroll, hip]]
    exact h
  | some ip =>
    have hb := enroll_binds h.sound hip
    refine ⟨h.sound.binds hb ?_,?_,?_⟩
    · intro m c hc hdyn
      rw [h.static m c hc] at hdyn
      cases hdyn
    · obtain ⟨c₁,hc₁,-,hst₁⟩ := hb.lease
      have hstatic := h.static
      intro m c hc
      rw [hb.offered] at hc
      grind
    · intro a
      have hmark := h.marks a
      rw [hb.mark]
      grind

theorem fromConfigAndDevices_fresh {config : DHCPv4ServerConfig} {devices : List EnrolledDevice} :
    Fresh (fromConfigAndDevices config devices) := by
  have hfold : ∀ s, Fresh s → Fresh (devices.foldl Dhcp4.enroll s) := by
    induction devices with
    | nil => exact fun s hs => hs
    | cons device devices ih => exact fun s hs => ih _ (hs.enroll device)
  exact hfold _ ⟨⟨by simp,by simp,by simp,by simp,by simp⟩,by simp,by simp⟩

/-- `find_dynamic_owner_of_ip` finds the one dynamic lease of an address, and the others are
elsewhere. -/
theorem Sound.kicked (h : Sound s) (hz : isDynamicOwner s ip z = true) :
    ∀ m c, (s.offeredIp.erase z).lookup m = some c → c.isStatic = false → c.ip ≠ ip := by
  intro m c hc hst hip
  obtain ⟨hm,hc⟩ := of_lookup_erase hc
  obtain ⟨cz,hcz,hcz'⟩ := (any_eq_true _ _).mp hz
  simp only [Bool.and_eq_true, decide_eq_true_eq, Bool.not_eq_true'] at hcz'
  exact hm (h.once m z c cz hc hcz hst hcz'.2 (hip.trans hcz'.1.symm))

theorem not_owner (hz : isDynamicOwner s ip z = false) (hc : s.offeredIp.lookup z = some c)
    (hst : c.isStatic = false) : c.ip ≠ ip := by
  intro hip
  rw [isDynamicOwner, hc, any_some, hip, hst] at hz
  simp at hz

theorem Sound.bind (h : Sound s) {owner : Option MacAddr}
    (howner : findsDynamicOwner s entry.ipv4 owner = true)
    (hr : addOrUpdateBinding turns now mac entry owner s = .ended s') : Sound s' := by
  have hnone : owner = none → ∀ m c, s.offeredIp.lookup m = some c → c.isStatic = false →
      c.ip ≠ entry.ipv4 := by
    rintro rfl m c hc hst
    have hall := List.all_eq_true.mp howner m (mem_keys.mp (mem_of_lookup hc))
    exact not_owner (by simpa using hall) hc hst
  unfold addOrUpdateBinding at hr
  dsimp only at hr
  split at hr
  · rename_i hkick
    cases hr
    refine h.binds (bindMac_binds h now mac) ?_
    intro m c hc hst hip
    split at hkick
    · exact hnone hkick m c hc hst hip
    · -- a dynamic lease of the address would mark it as dynamic
      rename_i hmark
      exact hmark (hip ▸ (h.dynamic m c hc hst).2)
  · rename_i z hkick
    split at hkick
    · subst hkick
      have hz : isDynamicOwner s entry.ipv4 z = true := howner
      have hs₁ := h.sameLeases (sameLeases_erase z)
      have hs₂ := hs₁.binds (bindMac_binds hs₁ now mac) (h.kicked hz)
      split at hr
      · rename_i r hoffer
        cases hr
        exact (hs₂.offer hoffer).setPrevIp z entry.ipv4
      · cases hr
      · cases hr
    · cases hkick

theorem Sound.unbind (h : Sound s) : Sound (removeBinding mac s) := by
  unfold removeBinding
  split
  · exact h
  · rename_i e he
    have hs₁ : Sound { s with
        staticBindings := s.staticBindings.erase mac
        ipOwner := s.ipOwner.erase e.ipv4
        offeredIp := s.offeredIp.erase mac } := by
      obtain ⟨hbound,howned,hstatic,hdynamic,honce⟩ := h
      constructor <;> simp only [lookup_erase_eq] <;> grind
    dsimp only
    split
    · refine hs₁.eraseMark (by simp) ?_
      -- the address was the binding's, so no dynamic lease has it
      intro m c hc hst hip
      have hd := (hs₁.dynamic m c hc hst).2
      rw [hip, (h.bound mac e he).2] at hd
      cases hd
    · exact hs₁

/-- Every release names an address that is nobody else's: no static binding has it, and no lease of
another MAC. -/
def ReleasesOwn (s : AssignStatus) : Event → Prop
  | .releaseIp mac ip => mac ∈ s.offeredIp →
    s.ipOwner.lookup ip = none ∧ ∀ x ∈ s.offeredIp.entries, x.1 ≠ mac → x.2.ip ≠ ip
  | _ => True

instance (s : AssignStatus) (e : Event) : Decidable (ReleasesOwn s e) := by
  cases e <;> unfold ReleasesOwn <;> infer_instance

theorem Sound.release (h : Sound s) (hown : ReleasesOwn s (.releaseIp mac ip)) :
    Sound (releaseIp mac ip s).2 := by
  unfold releaseIp
  split
  · rename_i hmem
    obtain ⟨howner,hleases⟩ := hown hmem
    refine (h.sameLeases (sameLeases_erase mac)).eraseMark howner ?_
    intro m c hc hst
    obtain ⟨hm,hc⟩ := of_lookup_erase hc
    exact hleases ⟨m,c⟩ (mem_lookup_iff.mp hc) hm
  · exact h

theorem Sound.step (h : Sound s) {e : Event} (he : ReleasesOwn s e) (hs : step s e = some s') :
    Sound s' := by
  cases e with
  | offerIp turns now mac hostname =>
    simp only [Dhcp4.step] at hs
    split at hs
    · rename_i r hr
      exact some.inj hs ▸ h.offer hr
    · cases hs
  | ackRequest now mac ip hostname leaseTime => exact some.inj hs ▸ h.ack
  | releaseIp mac ip => exact some.inj hs ▸ h.release he
  | addDeclineIp ip => exact some.inj hs ▸ h.decline
  | cleanExpireIp now => exact some.inj hs ▸ h.clean now
  | addOrUpdateBinding turns now mac entry owner =>
    simp only [Dhcp4.step] at hs
    split at hs
    · rename_i howner
      split at hs
      · rename_i s₁ hr
        exact some.inj hs ▸ h.bind howner hr
      · cases hs
    · cases hs
  | removeBinding mac => exact some.inj hs ▸ h.unbind

/-- The state after any history of operations in which clients release addresses of their own. -/
theorem sound_of_releasesOwn {config : DHCPv4ServerConfig} {devices : List EnrolledDevice}
    (hrun : Runs step ReleasesOwn (fromConfigAndDevices config devices) s) : Sound s :=
  hrun.invariant Sound (fun _ _ _ h he hs => h.step he hs) fromConfigAndDevices_fresh.sound

end Landscape.Dhcp4
