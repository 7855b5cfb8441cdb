import Landscape.Dhcp4.Ownership

/-! When the search for a free address ends, and what it finds. -/
namespace Landscape.Dhcp4
open Route Run Table List AList UInt32

variable {s : AssignStatus} {mac : MacAddr} {now : Nat} {hostname : Option String} {seed : UInt32}
  {a : Ipv4Addr}

def pool (s : AssignStatus) : List Ipv4Addr :=
  (range s.rangeCapacity.toNat).map fun i => s.ipRangeStart + ofNat i

def HasFree (s : AssignStatus) : Prop := ∃ a ∈ pool s, a ∉ s.allocatedHost

/-- The search ends without a division by zero, and for a MAC that has nothing yet it finds an
address exactly if one is free once expired leases and declined marks are dropped. -/
def OfferComplete (s : AssignStatus) (mac : MacAddr) (hostname : Option String) (now : Nat) :
    Prop :=
  (∃ turns r, offerIp turns now mac hostname s = .ended r) ∧
  (∀ turns, offerIp turns now mac hostname s ≠ .divideByZero) ∧
  (s.staticBindings.lookup mac = none → s.offeredIp.lookup mac = none →
    ((∃ turns a s', offerIp turns now mac hostname s = .ended (some a, s')) ↔
      HasFree (cleanExpireIp now s)))

def CountsFull (s : AssignStatus) : Prop :=
  ofNat s.allocatedHost.keys.length = s.rangeCapacity

instance : Decidable (CountsFull s) := inferInstanceAs (Decidable (_ = _))

theorem probed_mem_pool (hc : s.rangeCapacity ≠ 0) : probed s seed ∈ pool s := by
  have hpos : 0 < s.rangeCapacity.toNat := by
    rw [Nat.pos_iff_ne_zero]
    exact fun h => hc (UInt32.toNat_inj.mp h)
  refine mem_map.mpr ⟨(seed % s.rangeCapacity).toNat,?_,?_⟩
  · rw [mem_range, UInt32.toNat_mod]
    exact Nat.mod_lt _ hpos
  · rw [UInt32.ofNat_toNat]
    rfl

/-- Every address of the pool is reached from any seed, if need be past the end of the counter. -/
theorem exists_probed (ha : a ∈ pool s) (seed : UInt32) :
    ∃ k : Nat, probed s (seed + ofNat k) = a := by
  obtain ⟨i,hi,rfl⟩ := mem_map.mp ha
  rw [mem_range] at hi
  refine ⟨(ofNat i - seed).toNat,?_⟩
  have hseed : seed + ofNat (ofNat i - seed).toNat = ofNat i := by
    rw [UInt32.ofNat_toNat, UInt32.add_comm, UInt32.sub_add_cancel]
  have hlt : i < size := lt_trans hi s.rangeCapacity.toNat_lt
  have hmod : ofNat i % s.rangeCapacity = ofNat i := by
    apply UInt32.toNat_inj.mp
    rw [UInt32.toNat_mod, UInt32.toNat_ofNat', Nat.mod_eq_of_lt hlt, Nat.mod_eq_of_lt hi]
  rw [probed, hseed, hmod]

theorem pool_nodup : (pool s).Nodup := by
  refine List.Nodup.map_on ?_ nodup_range
  intro i hi j hj heq
  rw [mem_range] at hi hj
  have hij := congrArg UInt32.toNat (UInt32.add_right_inj s.ipRangeStart |>.mp heq)
  rwa [UInt32.toNat_ofNat', UInt32.toNat_ofNat',
    Nat.mod_eq_of_lt (lt_trans hi s.rangeCapacity.toNat_lt),
      Nat.mod_eq_of_lt (lt_trans hj s.rangeCapacity.toNat_lt)] at hij

theorem pool_length : (pool s).length = s.rangeCapacity.toNat := by
  simp [pool]

theorem mem_of_clean (h : a ∈ (cleanExpireIp now s).allocatedHost) : a ∈ s.allocatedHost := by
  obtain ⟨src,hsrc⟩ := lookup_of_mem h
  rw [clean_mark] at hsrc
  split at hsrc
  · cases hsrc
  · exact mem_of_lookup (Option.filter_eq_some_iff.mp hsrc).1

theorem HasFree.clean (h : HasFree s) : HasFree (cleanExpireIp now s) := by
  obtain ⟨a,ha,hfree⟩ := h
  exact ⟨a,ha,fun hmem => hfree (mem_of_clean hmem)⟩

theorem expiredIps_clean : expiredIps now (cleanExpireIp now s) = [] := by
  rw [eq_nil_iff_forall_not_mem]
  intro a ha
  obtain ⟨m,c,hc,hexp,-⟩ := mem_expiredIps.mp ha
  rw [clean_offered, Option.filter_eq_some_iff, hexp] at hc
  cases hc.2

theorem clean_keys_length (now : Nat) (s : AssignStatus) :
    (cleanExpireIp now s).allocatedHost.keys.length ≤ s.allocatedHost.keys.length := by
  have hsub : (cleanExpireIp now s).allocatedHost.keys ⊆ s.allocatedHost.keys :=
    fun a ha => mem_keys.mp (mem_of_clean (mem_keys.mpr ha))
  exact (subperm_of_subset (keys_nodup _) hsub).length_le

/- There are no more marks than addresses. -/
theorem keys_length_le : s.allocatedHost.keys.length ≤ size := by
  have hnodup : (s.allocatedHost.keys.map toNat).Nodup :=
    (keys_nodup _).map (fun _ _ h => UInt32.toNat_inj.mp h)
  have hsub : s.allocatedHost.keys.map toNat ⊆ range size := by
    intro n hn
    obtain ⟨a,-,rfl⟩ := mem_map.mp hn
    exact mem_range.mpr a.toNat_lt
  have hle := (subperm_of_subset hnodup hsub).length_le
  rwa [length_map, length_range] at hle

/-- If a full count drops, the pool has a free address. -/
theorem hasFree_of_count (hc : s.rangeCapacity ≠ 0) (hfull : CountsFull s)
    (hless : ¬CountsFull (cleanExpireIp now s)) : HasFree (cleanExpireIp now s) := by
  by_contra hno
  have hsub : pool (cleanExpireIp now s) ⊆ (cleanExpireIp now s).allocatedHost.keys := by
    intro a ha
    by_contra hmem
    exact hno ⟨a,ha,fun h => hmem (mem_keys.mp h)⟩
  have hle := (subperm_of_subset pool_nodup hsub).length_le
  rw [pool_length] at hle
  change s.rangeCapacity.toNat ≤ _ at hle
  have hdrop := clean_keys_length now s
  have hbound := keys_length_le (s := s)
  have hcount : s.allocatedHost.keys.length % UInt32.size = s.rangeCapacity.toNat := by
    rw [← hfull, UInt32.toNat_ofNat']
  have hpos : s.rangeCapacity.toNat ≠ 0 := fun h => hc (UInt32.toNat_inj.mp h)
  -- the count is the capacity itself, not just modulo the width of the counter
  have hlen : s.allocatedHost.keys.length = s.rangeCapacity.toNat := by
    rcases Nat.lt_or_eq_of_le hbound with hlt | heq
    · rwa [Nat.mod_eq_of_lt hlt] at hcount
    · rw [heq, Nat.mod_self] at hcount
      exact absurd hcount.symm hpos
  apply hless
  have hsame : (cleanExpireIp now s).allocatedHost.keys.length = s.rangeCapacity.toNat := by omega
  rw [CountsFull, hsame, UInt32.ofNat_toNat]
  rfl

theorem gaveUp_of_count (hcount : ¬CountsFull s) : gaveUp now s = (false, s) := if_neg hcount

theorem gaveUp_of_full (hcount : CountsFull s) :
    gaveUp now s = ((expiredIps now s).isEmpty, cleanExpireIp now s) := if_pos hcount

theorem probe_succ (turns : Nat) : probe now mac hostname (turns + 1) seed s =
      if (gaveUp now s).1 then .ended (none, (gaveUp now s).2)
      else if (gaveUp now s).2.rangeCapacity = 0 then .divideByZero
      else if probed (gaveUp now s).2 seed ∈ (gaveUp now s).2.allocatedHost then
        probe now mac hostname turns (seed + 1) (gaveUp now s).2
      else .ended (some (probed (gaveUp now s).2 seed), lease (gaveUp now s).2 mac
        (dynamicCache hostname (probed (gaveUp now s).2 seed) now offerValidTime)) := rfl

theorem probe_search (hc : s.rangeCapacity ≠ 0) (hcount : ¬CountsFull s) (turns : Nat) :
    probe now mac hostname (turns + 1) seed s =
      if probed s seed ∈ s.allocatedHost then probe now mac hostname turns (seed + 1) s
      else .ended (some (probed s seed),
        lease s mac (dynamicCache hostname (probed s seed) now offerValidTime)) := by
  rw [probe_succ, gaveUp_of_count hcount]
  simp only [Bool.false_eq_true, if_false, if_neg hc]

theorem probe_full (hcount : CountsFull s) (hexp : expiredIps now s = []) (turns : Nat) :
    probe now mac hostname (turns + 1) seed s = .ended (none, cleanExpireIp now s) := by
  rw [probe_succ, gaveUp_of_full hcount, hexp]
  rfl

/- The turn that finds expired leases and goes on without them. -/
theorem probe_expire (mac : MacAddr) (hostname : Option String) (hc : s.rangeCapacity ≠ 0)
    (hcount : CountsFull s) (hexp : expiredIps now s ≠ []) (turns : Nat) (seed : UInt32) :
    probe now mac hostname (turns + 1) seed s =
      if probed s seed ∈ (cleanExpireIp now s).allocatedHost then
        probe now mac hostname turns (seed + 1) (cleanExpireIp now s)
      else .ended (some (probed s seed),
        lease (cleanExpireIp now s) mac
        (dynamicCache hostname (probed s seed) now offerValidTime)) := by
  have hempty : (expiredIps now s).isEmpty = false := isEmpty_eq_false_iff.mpr hexp
  have hc' : (cleanExpireIp now s).rangeCapacity ≠ 0 := hc
  rw [probe_succ, gaveUp_of_full hcount, hempty]
  simp only [Bool.false_eq_true, if_false, if_neg hc']
  rfl

theorem probe_divides (hc : s.rangeCapacity = 0) (hgo : (gaveUp now s).1 = false) (turns : Nat) :
    probe now mac hostname (turns + 1) seed s = .divideByZero := by
  have hc' : (gaveUp now s).2.rangeCapacity = 0 := by
    unfold gaveUp
    split <;> exact hc
  rw [probe_succ, hgo, if_neg Bool.false_ne_true, if_pos hc']

theorem probe_ne_divideByZero (hc : s.rangeCapacity ≠ 0) (turns : Nat) (seed : UInt32) :
    probe now mac hostname turns seed s ≠ .divideByZero := by
  induction turns generalizing s seed with
  | zero =>
    nofun
  | succ turns ih =>
    have hc' : (gaveUp now s).2.rangeCapacity ≠ 0 := by
      unfold gaveUp
      split <;> exact hc
    rw [probe_succ, if_neg hc']
    split
    · nofun
    · split
      · exact ih hc' _
      · nofun

/-- While an address of the pool is free, the search ends with one. -/
theorem probe_finds (hostname : Option String) (hc : s.rangeCapacity ≠ 0) (hcount : ¬CountsFull s)
    (hfree : HasFree s) (seed : UInt32) :
    ∃ turns a s', probe now mac hostname turns seed s = .ended (some a, s') := by
  obtain ⟨a,ha,hnot⟩ := hfree
  obtain ⟨k,hk⟩ := exists_probed ha seed
  subst hk
  -- on the distance to the first seed that is known to reach a free address
  induction k generalizing seed with
  | zero =>
    rw [show seed + UInt32.ofNat 0 = seed from UInt32.add_zero seed] at hnot
    exact ⟨1,_,_,(probe_search hc hcount 0).trans (if_neg hnot)⟩
  | succ k ih =>
    by_cases hmem : probed s seed ∈ s.allocatedHost
    · have hshift : seed + 1 + ofNat k = seed + ofNat (k + 1) := by
        rw [UInt32.ofNat_add, UInt32.add_assoc, UInt32.add_comm 1]
        rfl
      obtain ⟨turns,b,s',hb⟩ := ih (seed + 1) (hshift ▸ ha) (hshift ▸ hnot)
      refine ⟨turns + 1,b,s',?_⟩
      rw [probe_search hc hcount, if_pos hmem, hb]
    · exact ⟨1,_,_,(probe_search hc hcount 0).trans (if_neg hmem)⟩

/-- When none is, it goes on for ever. -/
theorem probe_spins (hc : s.rangeCapacity ≠ 0) (hcount : ¬CountsFull s) (hfull : ¬HasFree s)
    (turns : Nat) (seed : UInt32) : probe now mac hostname turns seed s = .running := by
  induction turns generalizing seed with
  | zero => rfl
  | succ turns ih =>
    have hmem : probed s seed ∈ s.allocatedHost := by
      by_contra hnot
      exact hfull ⟨_,probed_mem_pool hc,hnot⟩
    rw [probe_search hc hcount, if_pos hmem]
    exact ih _

def ProbeComplete (s : AssignStatus) (mac : MacAddr) (hostname : Option String) (now : Nat) :
    Prop :=
  (∃ turns r, probe now mac hostname turns (u32Checksum mac) s = .ended r) ∧
  (∀ turns, probe now mac hostname turns (u32Checksum mac) s ≠ .divideByZero) ∧
  ((∃ turns a s', probe now mac hostname turns (u32Checksum mac) s = .ended (some a, s')) ↔
    HasFree (cleanExpireIp now s))

/-- The count of the marks decides rightly: it is not full and an address is free; or it is full,
nothing has expired, and the pool is full without the declined marks too; or leases have expired,
and the count drops with them or the first address probed is as good as any. -/
def Decisive (s : AssignStatus) (mac : MacAddr) (now : Nat) : Prop :=
  if ¬CountsFull s then HasFree s
  else if expiredIps now s = [] then ¬HasFree (cleanExpireIp now s)
  else s.rangeCapacity ≠ 0 ∧
    (CountsFull (cleanExpireIp now s) → HasFree (cleanExpireIp now s) →
      probed s (u32Checksum mac) ∉ (cleanExpireIp now s).allocatedHost)

theorem probeComplete_of_finds (hc : s.rangeCapacity ≠ 0) (hfree : HasFree (cleanExpireIp now s))
    (hfinds : ∃ turns a s', probe now mac hostname turns (u32Checksum mac) s =
      .ended (some a, s')) :
    ProbeComplete s mac hostname now := by
  obtain ⟨turns,a,s',hend⟩ := hfinds
  exact ⟨⟨turns,_,hend⟩,fun turns => probe_ne_divideByZero hc turns _,
    ⟨fun _ => hfree,fun _ => ⟨turns,a,s',hend⟩⟩⟩

/- A search that ends with nothing after `n` turns that decide nothing. -/
theorem probeComplete_of_nothing (n : Nat) (s₁ : AssignStatus)
    (hrun : ∀ turns ≤ n, probe now mac hostname turns (u32Checksum mac) s = .running)
    (hend : ∀ turns, probe now mac hostname (turns + n + 1) (u32Checksum mac) s =
      .ended (none, s₁)) :
    ProbeComplete s mac hostname now ↔ ¬HasFree (cleanExpireIp now s) := by
  have hcases : ∀ turns, probe now mac hostname turns (u32Checksum mac) s = .running ∨
      probe now mac hostname turns (u32Checksum mac) s = .ended (none, s₁) := by
    intro turns
    by_cases hle : turns ≤ n
    · exact .inl (hrun turns hle)
    · refine .inr ?_
      have hturns : turns = turns - (n + 1) + n + 1 := by omega
      rw [hturns]
      exact hend _
  have hnone : ¬∃ turns a s', probe now mac hostname turns (u32Checksum mac) s =
      .ended (some a, s') := by
    rintro ⟨turns,a,s',h⟩
    rcases hcases turns with h' | h'
    · rw [h'] at h
      cases h
    · rw [h'] at h
      cases h
  constructor
  · intro hcomplete hfree
    exact hnone (hcomplete.2.2.mpr hfree)
  · intro hno
    refine ⟨⟨n + 1,_,by simpa using hend 0⟩,?_,⟨fun h => absurd h hnone,fun h => absurd h hno⟩⟩
    intro turns h
    rcases hcases turns with h' | h'
    · rw [h'] at h
      cases h
    · rw [h'] at h
      cases h

theorem not_probeComplete_of_divides (hc : s.rangeCapacity = 0) (hgo : (gaveUp now s).1 = false) :
    ¬ProbeComplete s mac hostname now :=
  fun h => h.2.1 1 (probe_divides hc hgo 0)

theorem not_hasFree_of_zero (hc : s.rangeCapacity = 0) : ¬HasFree s := by
  rintro ⟨a,ha,-⟩
  simp [pool, hc] at ha

theorem probeComplete_of_count (hcount : ¬CountsFull s) :
    ProbeComplete s mac hostname now ↔ HasFree s := by
  by_cases hc : s.rangeCapacity = 0
  · have hgo : (gaveUp now s).1 = false := by rw [gaveUp_of_count hcount]
    exact ⟨fun h => absurd h (not_probeComplete_of_divides hc hgo),
      fun h => absurd h (not_hasFree_of_zero hc)⟩
  · constructor
    · rintro ⟨⟨turns,r,hend⟩,-⟩
      by_contra hno
      rw [probe_spins hc hcount hno] at hend
      cases hend
    · intro hfree
      exact probeComplete_of_finds hc hfree.clean (probe_finds hostname hc hcount hfree _)

theorem probeComplete_of_expired (hcount : CountsFull s) (hexp : expiredIps now s ≠ []) :
    ProbeComplete s mac hostname now ↔ s.rangeCapacity ≠ 0 ∧
      (CountsFull (cleanExpireIp now s) → HasFree (cleanExpireIp now s) →
        probed s (u32Checksum mac) ∉ (cleanExpireIp now s).allocatedHost) := by
  by_cases hc : s.rangeCapacity = 0
  · have hgo : (gaveUp now s).1 = false := by
      rw [gaveUp_of_full hcount]
      exact isEmpty_eq_false_iff.mpr hexp
    exact ⟨fun h => absurd h (not_probeComplete_of_divides hc hgo),fun h => absurd hc h.1⟩
  · have hturn := probe_expire mac hostname hc hcount hexp
    by_cases hfirst : probed s (u32Checksum mac) ∈ (cleanExpireIp now s).allocatedHost
    · have hnext : ∀ turns, probe now mac hostname (turns + 1) (u32Checksum mac) s =
          probe now mac hostname turns (u32Checksum mac + 1) (cleanExpireIp now s) :=
        fun turns => (hturn turns _).trans (if_pos hfirst)
      by_cases hcount' : CountsFull (cleanExpireIp now s)
      · -- the second turn gives up
        rw [probeComplete_of_nothing 1 (cleanExpireIp now (cleanExpireIp now s))]
        · simp [hc, hcount', hfirst]
        · intro turns hle
          rcases Nat.le_one_iff_eq_zero_or_eq_one.mp hle with rfl | rfl
          · rfl
          · rw [hnext]
            rfl
        · intro turns
          rw [hnext, probe_full hcount' expiredIps_clean]
      · have hfree := hasFree_of_count hc hcount hcount'
        have hc' : (cleanExpireIp now s).rangeCapacity ≠ 0 := hc
        obtain ⟨turns,a,s',hend⟩ := probe_finds hostname hc' hcount' hfree
          (u32Checksum mac + 1)
        constructor
        · exact fun _ => ⟨hc,fun h => absurd h hcount'⟩
        · exact fun _ => probeComplete_of_finds hc hfree ⟨turns + 1,a,s',(hnext turns).trans hend⟩
    · have hfree : HasFree (cleanExpireIp now s) := ⟨_,probed_mem_pool hc,hfirst⟩
      constructor
      · exact fun _ => ⟨hc,fun _ _ => hfirst⟩
      · exact fun _ => probeComplete_of_finds hc hfree ⟨1,_,_,(hturn 0 _).trans (if_neg hfirst)⟩

theorem probeComplete_iff (s : AssignStatus) (mac : MacAddr) (hostname : Option String)
    (now : Nat) :
    ProbeComplete s mac hostname now ↔ Decisive s mac now := by
  unfold Decisive
  by_cases hcount : CountsFull s
  · rw [if_neg (not_not.mpr hcount)]
    by_cases hexp : expiredIps now s = []
    · rw [if_pos hexp]
      refine probeComplete_of_nothing 0 (cleanExpireIp now s) ?_ ?_
      · intro turns hle
        obtain rfl := Nat.le_zero.mp hle
        rfl
      · exact fun turns => probe_full hcount hexp turns
    · rw [if_neg hexp]
      exact probeComplete_of_expired hcount hexp
  · rw [if_pos hcount]
    exact probeComplete_of_count hcount

/-- An offer to a MAC is complete exactly if the MAC has a binding or a lease, or the count of the
marks decides rightly. -/
theorem offerComplete_iff (s : AssignStatus) (mac : MacAddr) (hostname : Option String)
    (now : Nat) :
    OfferComplete s mac hostname now ↔
      mac ∈ s.staticBindings ∨ mac ∈ s.offeredIp ∨ Decisive s mac now := by
  unfold OfferComplete offerIp
  cases hb : s.staticBindings.lookup mac with
  | some e => simp [mem_of_lookup hb]
  | none =>
    cases hl : s.offeredIp.lookup mac with
    | some c => simp [mem_of_lookup hl]
    | none =>
      have hiff := probeComplete_iff s mac hostname now
      simp only [lookup_eq_none.mp hb, lookup_eq_none.mp hl, false_or, forall_const]
      exact hiff

def AlwaysComplete : Prop :=
  ∀ config, config.validate = .ok () → ∀ devices : List EnrolledDevice,
    (devices.map (·.mac)).Nodup → (devices.filterMap (·.ipv4)).Nodup →
      ∀ s, Runs step (fun _ _ => True) (fromConfigAndDevices config devices) s →
        ∀ mac hostname now, OfferComplete s mac hostname now

private def oneAddress : DHCPv4ServerConfig where
  ipRangeStart := 0x0a000064
  ipRangeEnd := some 0x0a000065
  serverIpAddr := 0x0a000001
  networkMask := 24
  addressLeaseTime := none

private def outside : EnrolledDevice := ⟨0x10,some 0x0a00000a,none⟩

/-- One device is bound to an address outside a pool of one: the free address is not given out. -/
theorem offerComplete_fails : ¬AlwaysComplete := by
  intro halways
  have hcomplete := halways oneAddress (by decide +kernel) [outside] (by simp) (by simp [outside])
    (fromConfigAndDevices oneAddress [outside]) .refl 1 none 0
  have hfree : HasFree (cleanExpireIp 0 (fromConfigAndDevices oneAddress [outside])) :=
    ⟨0x0a000064,by decide +kernel,by decide +kernel⟩
  obtain ⟨turns,a,s',hend⟩ :=
    (hcomplete.2.2 (by decide +kernel) (by decide +kernel)).mpr hfree
  have hprobe : offerIp turns 0 1 none (fromConfigAndDevices oneAddress [outside]) =
      probe 0 1 none turns (u32Checksum 1) (fromConfigAndDevices oneAddress [outside]) := rfl
  rw [hprobe] at hend
  cases turns with
  | zero => cases hend
  | succ turns =>
    cases hend

end Landscape.Dhcp4
