import Landscape.Dhcp4.Reservation

/-! Every dynamic mark belongs to a lease, so that its address comes back to the pool. -/
namespace Landscape.Dhcp4
open Route Run Table Option AList

variable {config : DHCPv4ServerConfig} {devices : List EnrolledDevice} {s s' : AssignStatus}
  {mac m : MacAddr} {a ip : Ipv4Addr} {c : OfferedCache} {e entry : StaticBindingEntry}
  {turns now : Nat} {hostname : Option String}

def Leased (s : AssignStatus) (a : Ipv4Addr) : Prop :=
  ∃ m c, s.offeredIp.lookup m = some c ∧ c.isStatic = false ∧ c.ip = a

/-- Every address marked as dynamic is leased, and the mark goes when that lease expires or is
released. -/
def Recoverable (s : AssignStatus) : Prop :=
  ∀ a, s.allocatedHost.lookup a = some .dynamic →
    ∃ m c, s.offeredIp.lookup m = some c ∧ c.isStatic = false ∧ c.ip = a ∧
      (∀ now, c.expireTime < now → (cleanExpireIp now s).allocatedHost.lookup a = none) ∧
      (releaseIp m a s).2.allocatedHost.lookup a = none

structure Tended (s : AssignStatus) : Prop where
  owned : ∀ a m, s.ipOwner.lookup a = some m →
    ∃ e, s.staticBindings.lookup m = some e ∧ e.ipv4 = a
  place : ∀ m e c, s.staticBindings.lookup m = some e → s.offeredIp.lookup m = some c →
    c.ip = e.ipv4
  leased : ∀ a, s.allocatedHost.lookup a = some .dynamic → Leased s a

theorem Tended.recoverable (h : Tended s) : Recoverable s := by
  intro a ha
  obtain ⟨m,c,hc,hst,hip⟩ := h.leased a ha
  refine ⟨m,c,hc,hst,hip,?_,?_⟩
  · intro now hlate
    have hexp : expired now c = true := by simp [expired, hst, hlate]
    rw [clean_mark, if_pos (mem_expiredIps.mpr ⟨m,c,hc,hexp,hip⟩)]
  · rw [releaseIp, if_pos (mem_of_lookup hc)]
    exact lookup_erase a _

section
variable (h : Tended s)
include h

theorem Tended.clean (now : Nat) : Tended (cleanExpireIp now s) := by
  refine ⟨h.owned,?_,?_⟩
  · intro m e c he hc
    rw [clean_offered, filter_eq_some_iff] at hc
    exact h.place m e c he hc.1
  · intro a ha
    rw [clean_mark] at ha
    split at ha
    · cases ha
    rename_i hnot
    rw [filter_eq_some_iff] at ha
    obtain ⟨m,c,hc,hst,hip⟩ := h.leased a ha.1
    refine ⟨m,c,?_,hst,hip⟩
    rw [clean_offered, hc, filter_some_pos]
    -- had the lease expired, its address would be among the expired ones
    cases hexp : expired now c with
    | false => rfl
    | true => exact absurd (mem_expiredIps.mpr ⟨m,c,hc,hexp,hip⟩) hnot

theorem Tended.lease (hc : c.isStatic = false) (hnew : s.offeredIp.lookup mac = none)
    (hplace : ∀ e, s.staticBindings.lookup mac = some e → c.ip = e.ipv4) :
    Tended (lease s mac c) := by
  refine ⟨h.owned,?_,?_⟩
  · intro m e c' he hc'
    rcases of_lookup_insert hc' with ⟨hm,⟨⟩⟩ | ⟨-,hc'⟩
    · exact hplace e (hm ▸ he)
    · exact h.place m e c' he hc'
  · intro a ha
    rcases of_lookup_insert ha with ⟨hip,-⟩ | ⟨-,ha⟩
    · exact ⟨mac,c,lookup_insert _,hc,hip.symm⟩
    · obtain ⟨m,c',hc',hst,hip⟩ := h.leased a ha
      refine ⟨m,c',?_,hst,hip⟩
      rw [Dhcp4.lease, lookup_insert_eq, if_neg]
      · exact hc'
      · rintro rfl
        rw [hnew] at hc'
        cases hc'

/-- A lease changes in its texts and times only. -/
theorem Tended.retext {c' : OfferedCache} (hc : s.offeredIp.lookup mac = some c)
    (hip : c'.ip = c.ip) (hst : c'.isStatic = c.isStatic) :
    Tended { s with offeredIp := s.offeredIp.insert mac c' } := by
  refine ⟨h.owned,?_,?_⟩
  · intro m e c₁ he hc₁
    rcases of_lookup_insert hc₁ with ⟨hm,⟨⟩⟩ | ⟨-,hc₁⟩
    · rw [hip]
      exact h.place m e c he (hm ▸ hc)
    · exact h.place m e c₁ he hc₁
  · intro a ha
    obtain ⟨m,c₁,hc₁,hst₁,hip₁⟩ := h.leased a ha
    by_cases hm : m = mac
    · subst hm
      rw [hc] at hc₁
      cases hc₁
      exact ⟨m,c',lookup_insert _,hst.trans hst₁,hip.trans hip₁⟩
    · refine ⟨m,c₁,?_,hst₁,hip₁⟩
      rw [lookup_insert_eq, if_neg hm]
      exact hc₁

theorem Tended.setPrevIp (z : MacAddr) (ip : Ipv4Addr) : Tended (setPrevIp z ip s) := by
  unfold Dhcp4.setPrevIp
  split
  · rename_i c hc
    exact h.retext hc rfl rfl
  · exact h

theorem Tended.offerStatic (he : s.staticBindings.lookup mac = some e) (hip : c.ip = e.ipv4) :
    Tended { s with
      offeredIp := s.offeredIp.insert mac c
      allocatedHost := s.allocatedHost.insert e.ipv4 (.static mac) } := by
  refine ⟨h.owned,?_,?_⟩
  · intro m e' c' he' hc'
    rcases of_lookup_insert hc' with ⟨hm,⟨⟩⟩ | ⟨-,hc'⟩
    · rw [hm, he] at he'
      rw [hip, some.inj he']
    · exact h.place m e' c' he' hc'
  · intro a ha
    rcases of_lookup_insert ha with ⟨-,⟨⟩⟩ | ⟨hne,ha⟩
    obtain ⟨m,c',hc',hst,hip'⟩ := h.leased a ha
    refine ⟨m,c',?_,hst,hip'⟩
    rw [lookup_insert_eq, if_neg]
    · exact hc'
    · -- the MAC itself had no lease at another address
      rintro rfl
      exact hne (hip'.symm.trans (h.place m e c' he hc'))

theorem Tended.offer {r : Option Ipv4Addr × AssignStatus}
    (hr : offerIp turns now mac hostname s = .ended r) : Tended r.2 := by
  unfold offerIp at hr
  split at hr
  · rename_i e he
    cases hr
    split
    · rename_i old hold
      rw [if_neg (fun hne => hne (h.place mac e old he hold))]
      exact h.offerStatic he rfl
    · exact h.offerStatic he rfl
  · rename_i hbind
    split at hr
    · cases hr
      exact h
    · rename_i hnew
      refine probe_rule
        (P := fun s => Tended s ∧ s.staticBindings.lookup mac = none ∧
          s.offeredIp.lookup mac = none)
        (Q := fun r => Tended r.2) ?_ ?_ ?_ hr ⟨h,hbind,hnew⟩
      · rintro s ⟨hs,hb,hn⟩
        refine ⟨hs.clean now,hb,?_⟩
        rw [clean_offered, hn, filter_none]
      · rintro s ⟨hs,-⟩
        exact hs
      · rintro s seed ⟨hs,hb,hn⟩ - -
        refine hs.lease rfl hn ?_
        intro e he
        rw [hb] at he
        cases he

theorem Tended.ack {leaseTime : UInt32} :
    Tended (ackRequest now mac ip hostname leaseTime s).2 := by
  unfold ackRequest
  split
  · exact h
  · rename_i hconf
    split
    · rename_i c hc
      split
      · exact h.retext hc rfl rfl
      · exact h
    · rename_i hnew
      split
      · exact h
      · split
        · exact h
        · refine h.lease rfl hnew ?_
          intro e he
          exact (conflicts_false (Bool.eq_false_iff.mpr hconf) he).symm

theorem Tended.decline : Tended (addDeclineIp ip s) := by
  unfold addDeclineIp
  split
  · exact h
  · refine ⟨h.owned,h.place,?_⟩
    intro a ha
    rcases of_lookup_insert ha with ⟨-,⟨⟩⟩ | ⟨-,ha⟩
    exact h.leased a ha

end

structure TendedBut (ip : Ipv4Addr) (s : AssignStatus) : Prop where
  owned : ∀ a m, s.ipOwner.lookup a = some m →
    ∃ e, s.staticBindings.lookup m = some e ∧ e.ipv4 = a
  place : ∀ m e c, s.staticBindings.lookup m = some e → s.offeredIp.lookup m = some c →
    c.ip = e.ipv4
  leased : ∀ a ≠ ip, s.allocatedHost.lookup a = some .dynamic → Leased s a

theorem Tended.but (h : Tended s) : TendedBut ip s :=
  ⟨h.owned,h.place,fun a _ ha => h.leased a ha⟩

theorem Tended.erase (h : Tended s)
    (hlease : ∀ c ∈ s.offeredIp.lookup mac, c.isStatic = false → c.ip = ip) :
    TendedBut ip { s with offeredIp := s.offeredIp.erase mac } := by
  refine ⟨h.owned,?_,?_⟩
  · intro m e c' he hc'
    exact h.place m e c' he (of_lookup_erase hc').2
  · intro a hne ha
    obtain ⟨m,c',hc',hst,hip⟩ := h.leased a ha
    refine ⟨m,c',?_,hst,hip⟩
    rw [lookup_erase_eq, if_neg]
    · exact hc'
    · rintro rfl
      exact hne (hip.symm.trans (hlease c' hc' hst))

theorem TendedBut.eraseMark (h : TendedBut ip s) :
    Tended { s with allocatedHost := s.allocatedHost.erase ip } := by
  refine ⟨h.owned,h.place,fun a ha => ?_⟩
  obtain ⟨hne,ha⟩ := of_lookup_erase ha
  exact h.leased a hne ha

theorem dropOldEntry_marked {src : IpAllocSource}
    (h : (dropOldEntry mac s).allocatedHost.lookup a = some src) :
    s.allocatedHost.lookup a = some src := by
  unfold dropOldEntry at h
  split at h
  · dsimp only at h
    split at h
    · exact (of_lookup_erase h).2
    · exact h
  · exact h

/- The owners that are left, none of them the MAC. -/
theorem TendedBut.dropOldEntry_owned (h : TendedBut ip s)
    (hm : (dropOldEntry mac s).ipOwner.lookup a = some m) :
    s.ipOwner.lookup a = some m ∧ m ≠ mac := by
  unfold dropOldEntry at hm
  split at hm
  · rename_i e he
    obtain ⟨hne,howner⟩ := of_lookup_erase hm
    refine ⟨howner,?_⟩
    rintro rfl
    obtain ⟨e',he',hip⟩ := h.owned a m howner
    rw [he] at he'
    cases he'
    exact hne hip.symm
  · rename_i he
    refine ⟨hm,?_⟩
    rintro rfl
    obtain ⟨e',he',-⟩ := h.owned a m hm
    rw [he] at he'
    cases he'

section Lookups
variable (hne : m ≠ mac)
include hne

/-- A binding keeps the leases and bindings of all MACs but the one and the one it is taken
from. -/
theorem bindMac_offered : (bindMac now mac entry s).offeredIp.lookup m =
    if (dropOldEntry mac s).ipOwner.lookup entry.ipv4 = some m then none
    else s.offeredIp.lookup m := by
  simp only [bindMac, reserve, lookup_insert_eq, if_neg hne, takeOver_offered,
    dropOldEntry_offered hne]
  simp [hne]

theorem bindMac_binding : (bindMac now mac entry s).staticBindings.lookup m =
    if (dropOldEntry mac s).ipOwner.lookup entry.ipv4 = some m then none
    else s.staticBindings.lookup m := by
  simp only [bindMac, reserve, lookup_insert_eq, if_neg hne, takeOver_binding, dropOldEntry_binding]
  simp [hne]

end Lookups

theorem TendedBut.bindMac (h : TendedBut entry.ipv4 s)
    (hlease : ∀ c, s.offeredIp.lookup mac = some c → c.isStatic = false → c.ip = entry.ipv4) :
    Tended (bindMac now mac entry s) := by
  refine ⟨?_,?_,?_⟩
  · intro a m ha
    have howner : (Dhcp4.bindMac now mac entry s).ipOwner.lookup a =
        if a = entry.ipv4 then some mac else (dropOldEntry mac s).ipOwner.lookup a := by
      simp only [Dhcp4.bindMac, reserve, takeOver_owner, lookup_insert_eq]
    rw [howner] at ha
    split at ha
    · rename_i hip
      cases ha
      exact ⟨entry,lookup_insert _,hip.symm⟩
    · rename_i hip
      obtain ⟨hown,hne⟩ := h.dropOldEntry_owned ha
      obtain ⟨e,he,hea⟩ := h.owned a m hown
      refine ⟨e,?_,hea⟩
      rw [bindMac_binding hne, if_neg]
      · exact he
      · -- the MAC would own two addresses
        intro htaken
        obtain ⟨e',he',hea'⟩ := h.owned _ m (h.dropOldEntry_owned htaken).1
        rw [he] at he'
        cases he'
        exact hip (hea.symm.trans hea')
  · intro m e c he hc
    by_cases hm : m = mac
    · subst hm
      have hbind : (Dhcp4.bindMac now m entry s).staticBindings.lookup m = some entry :=
        lookup_insert _
      have hoff : (Dhcp4.bindMac now m entry s).offeredIp.lookup m =
          some (staticCache entry.hostname entry.ipv4 now 86400) := lookup_insert _
      rw [hbind] at he
      rw [hoff] at hc
      cases he
      cases hc
      rfl
    · rw [bindMac_binding hm] at he
      rw [bindMac_offered hm] at hc
      split at he
      · cases he
      · rename_i htaken
        rw [if_neg htaken] at hc
        exact h.place m e c he hc
  · intro a ha
    have hmark : (Dhcp4.bindMac now mac entry s).allocatedHost.lookup a =
        if a = entry.ipv4 then some (.static mac)
          else (dropOldEntry mac s).allocatedHost.lookup a := by
      simp only [Dhcp4.bindMac, reserve, takeOver_mark, lookup_insert_eq]
    rw [hmark] at ha
    split at ha
    · cases ha
    rename_i hip
    obtain ⟨m,c,hc,hst,hca⟩ := h.leased a hip (dropOldEntry_marked ha)
    refine ⟨m,c,?_,hst,hca⟩
    have hne : m ≠ mac := by
      rintro rfl
      exact hip (hca.symm.trans (hlease c hc hst))
    rw [bindMac_offered hne, if_neg]
    · exact hc
    · -- the MAC that loses the address had its lease there
      intro htaken
      obtain ⟨e,he,hea⟩ := h.owned _ m (h.dropOldEntry_owned htaken).1
      exact hip (hca.symm.trans ((h.place m e c he hc).trans hea))

theorem Tended.bind (h : Tended s) {owner : Option MacAddr}
    (howner : findsDynamicOwner s entry.ipv4 owner = true)
    (hlease : ∀ c ∈ s.offeredIp.lookup mac, c.isStatic = false → c.ip = entry.ipv4)
    (hr : addOrUpdateBinding turns now mac entry owner s = .ended s') : Tended s' := by
  unfold addOrUpdateBinding at hr
  dsimp only at hr
  split at hr
  · cases hr
    exact h.but.bindMac hlease
  · rename_i z hkick
    split at hkick
    · subst hkick
      obtain ⟨cz,hcz,hown⟩ := (any_eq_true _ _).mp howner
      simp only [Bool.and_eq_true, decide_eq_true_eq] at hown
      have hs₂ : Tended (Dhcp4.bindMac now mac entry
          { s with offeredIp := s.offeredIp.erase z }) := by
        refine (h.erase ?_).bindMac fun c hc => hlease c (of_lookup_erase hc).2
        rw [hcz]
        rintro c ⟨⟩ -
        exact hown.1
      split at hr
      · rename_i r hoffer
        cases hr
        exact (hs₂.offer hoffer).setPrevIp z entry.ipv4
      · cases hr
      · cases hr
    · cases hkick

theorem Tended.unbind (h : Tended s)
    (hlease : mac ∈ s.staticBindings → ∀ c ∈ s.offeredIp.lookup mac, c.isStatic = true) :
    Tended (removeBinding mac s) := by
  unfold removeBinding
  split
  · exact h
  · rename_i e he
    have hs₁ : Tended { s with
        staticBindings := s.staticBindings.erase mac
        ipOwner := s.ipOwner.erase e.ipv4
        offeredIp := s.offeredIp.erase mac } := by
      refine ⟨?_,?_,?_⟩
      · intro a m ha
        obtain ⟨hne,ha⟩ := of_lookup_erase ha
        obtain ⟨e',he',hip⟩ := h.owned a m ha
        refine ⟨e',?_,hip⟩
        rw [lookup_erase_eq, if_neg]
        · exact he'
        · rintro rfl
          rw [he] at he'
          cases he'
          exact hne hip.symm
      · intro m e' c he' hc
        exact h.place m e' c (of_lookup_erase he').2 (of_lookup_erase hc).2
      · intro a ha
        obtain ⟨m,c,hc,hst,hip⟩ := h.leased a ha
        refine ⟨m,c,?_,hst,hip⟩
        rw [lookup_erase_eq, if_neg]
        · exact hc
        · rintro rfl
          rw [hlease (mem_of_lookup he) c hc] at hst
          cases hst
    dsimp only
    split
    · exact hs₁.but.eraseMark
    · exact hs₁

theorem Tended.release (h : Tended s)
    (hlease : ∀ c ∈ s.offeredIp.lookup mac, c.isStatic = false → c.ip = ip) :
    Tended (releaseIp mac ip s).2 := by
  unfold releaseIp
  split
  · exact (h.erase hlease).eraseMark
  · exact h

/-- A client with a dynamic lease releases the address of that lease; a binding is not given to a
MAC with a dynamic lease of another address, and not removed while the MAC's lease is dynamic. -/
def KeepsTrack (s : AssignStatus) : Event → Prop
  | .releaseIp mac ip => ∀ c ∈ s.offeredIp.lookup mac, c.isStatic = false → c.ip = ip
  | .addOrUpdateBinding _ _ mac entry _ =>
    ∀ c ∈ s.offeredIp.lookup mac, c.isStatic = false → c.ip = entry.ipv4
  | .removeBinding mac =>
    mac ∈ s.staticBindings → ∀ c ∈ s.offeredIp.lookup mac, c.isStatic = true
  | _ => True

instance (s : AssignStatus) : DecidablePred (KeepsTrack s)
  | .releaseIp .. | .addOrUpdateBinding .. | .removeBinding _ =>
    by dsimp only [KeepsTrack]; infer_instance
  | .offerIp .. | .ackRequest .. | .addDeclineIp _ | .cleanExpireIp _ => isTrue trivial

theorem Tended.step (h : Tended s) {e : Event} (he : KeepsTrack s e) (hs : step s e = some s') :
    Tended s' := by
  cases e with
  | offerIp turns now mac hostname =>
    simp only [Dhcp4.step] at hs
    split at hs
    · rename_i r hr
      exact some.inj hs ▸ h.offer hr
    · cases hs
  | ackRequest now mac ip hostname leaseTime => exact some.inj hs ▸ h.ack
  | releaseIp mac ip => exact some.inj hs ▸ h.release he
  | addDeclineIp ip => exact some.inj hs ▸ h.decline
  | cleanExpireIp now => exact some.inj hs ▸ h.clean now
  | addOrUpdateBinding turns now mac entry owner =>
    simp only [Dhcp4.step] at hs
    split at hs
    · rename_i howner
      split at hs
      · rename_i s₁ hr
        exact some.inj hs ▸ h.bind howner he hr
      · cases hs
    · cases hs
  | removeBinding mac => exact some.inj hs ▸ h.unbind he

theorem Fresh.tended (h : Fresh s) : Tended s :=
  ⟨h.sound.owned,fun _ _ _ he hc => h.sound.offered_bound he hc,fun a ha => absurd ha (h.marks a)⟩

/-- In every history of such operations, every dynamic mark is that of a lease and goes with it. -/
theorem recoverable_of_keepsTrack
    (hrun : Runs step KeepsTrack (fromConfigAndDevices config devices) s) : Recoverable s :=
  (hrun.invariant Tended (fun _ _ _ h he hs => h.step he hs)
    fromConfigAndDevices_fresh.tended).recoverable

/-! Sample clients on 10.0.0.0/24. -/

private def poolConfig : DHCPv4ServerConfig where
  ipRangeStart := 0x0a000064
  ipRangeEnd := some 0x0a000068
  serverIpAddr := 0x0a000001
  networkMask := 24
  addressLeaseTime := none

/-- A client is moved by a binding of its address, and another one releases its own. -/
theorem recoverable_sample : ∃ s, Runs step KeepsTrack (fromConfigAndDevices poolConfig []) s ∧
    s.allocatedHost.keys.length = 2 ∧ Recoverable s := by
  refine runs_and (runs_of_decide _ _
    [.ackRequest 0 1 0x0a000064 none 3600, .ackRequest 0 2 0x0a000065 none 3600,
      .addOrUpdateBinding 4 1 3 ⟨0x0a000064,none⟩ (some 1),
        .releaseIp 2 0x0a000065] _ _ (by decide +kernel)) ?_
  exact fun _ hrun _ => recoverable_of_keepsTrack hrun

def AlwaysRecoverable : Prop :=
  ∀ config, config.validate = .ok () → ∀ devices : List EnrolledDevice,
    (devices.map (·.mac)).Nodup → (devices.filterMap (·.ipv4)).Nodup →
      ∀ s, Runs step (fun _ _ => True) (fromConfigAndDevices config devices) s → Recoverable s

/-- A client with a lease is given a static binding to another address: the mark of its lease
stays. -/
theorem recoverable_fails : ¬AlwaysRecoverable := by
  intro halways
  obtain ⟨s,hrun,hmark,hleft⟩ := runs_of_steps step (fromConfigAndDevices poolConfig [])
    [.ackRequest 0 1 0x0a000064 none 3600, .addOrUpdateBinding 4 1 1 ⟨0x0a000065,none⟩ none]
    (fun s => s.allocatedHost.lookup 0x0a000064 = some .dynamic ∧ ∀ x ∈ s.offeredIp.entries,
      x.2.isStatic = true)
    (by decide +kernel)
  have hrec := halways poolConfig (by decide +kernel) [] (by simp) (by simp) s hrun
  obtain ⟨m,c,hc,hst,-⟩ := hrec _ hmark
  have hstatic := hleft ⟨m,c⟩ (mem_lookup_iff.mp hc)
  rw [hst] at hstatic
  cases hstatic

end Landscape.Dhcp4
