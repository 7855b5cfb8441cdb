import Landscape.LanDevice.Ownership

/-! Who gets an IPv4 address: the evidence of a claim against the evidence of the entry that the
index names for the address, which may hold another one by now. -/
namespace Landscape.LanDevice
open Function Option
open Dhcp4 (Ipv4Addr)

section Claim
variable {d : Directory} {id owner : Uuid} {ip : Ipv4Addr} {source : AddressSourceV4}

theorem claimIpv4_of_free (hnone : (d.byIpv4 ip).filter (· ≠ id) = none) :
    (claimIpv4 d id ip source).1 = true :=
  congrArg Prod.fst (claimAddr_of_none (t := ipv4Table) hnone)

theorem claimIpv4_of_owner (howner : d.byIpv4 ip = some owner) (hne : owner ≠ id) :
    claimIpv4 d id ip source =
      if source.rank > ((d.entries owner).bind (·.ipv4Source)).elim 255 (·.rank) then (false, d)
      else (true, { d.updateEntry owner (·.withoutIpv4 ip) with
        byIpv4 := update d.byIpv4 ip (some id) }) := by
  have hfilter : (d.byIpv4 ip).filter (· ≠ id) = some owner := by
    rw [howner, filter_some, if_pos (decide_eq_true hne)]
  exact claimAddr_of_some (t := ipv4Table) hfilter

theorem rank_le (source : AddressSourceV4) : source.rank ≤ 2 := by
  cases source <;> decide

/-- An address nobody holds goes to whoever claims it; a held one goes to a claim that is at least
as strong, and its holder alone loses it. -/
def ArbitratesHolders (d : Directory) (id : Uuid) (ip : Ipv4Addr) : Prop :=
  ((∀ i e, d.entries i = some e → e.ipv4 ≠ some ip) →
    ∀ source, (claimIpv4 d id ip source).1 = true) ∧
    ∀ holder e, holder ≠ id → d.entries holder = some e → e.ipv4 = some ip →
      ∃ s, e.ipv4Source = some s ∧ ∀ source,
        ((claimIpv4 d id ip source).1 = true ↔ source.rank ≤ s.rank) ∧
        ((claimIpv4 d id ip source).1 = true →
          (claimIpv4 d id ip source).2 = { d with
            entries := update d.entries holder (some { e with ipv4 := none, ipv4Source := none })
            byIpv4 := update d.byIpv4 ip (some id) })

/-- The index may name another entry that has left the address, but then that entry has no address
or has one that was only seen by ARP. -/
def LeftWeakly (d : Directory) (id : Uuid) (ip : Ipv4Addr) : Prop :=
  ∀ owner e, d.byIpv4 ip = some owner → owner ≠ id → d.entries owner = some e → e.ipv4 ≠ some ip →
    e.ipv4Source = none ∨ e.ipv4Source = some .arp

theorem claimIpv4_of_holder (ho : Owned d) (hs : Sourced d) {holder : Uuid} {e : LanDeviceEntry}
    (hne : holder ≠ id) (he : d.entries holder = some e) (hip : e.ipv4 = some ip) :
    ∃ s, e.ipv4Source = some s ∧ ∀ source,
      claimIpv4 d id ip source = if source.rank > s.rank then (false, d) else (true, { d with
        entries := update d.entries holder (some { e with ipv4 := none, ipv4Source := none })
        byIpv4 := update d.byIpv4 ip (some id) }) := by
  have hsome : e.ipv4Source.isSome = true := by
    rw [← hs holder e he, hip]
    rfl
  obtain ⟨s,hs⟩ := isSome_iff_exists.mp hsome
  have hindex : d.byIpv4 ip = some holder := ho.ipv4 holder ip ⟨e,he,hip⟩
  refine ⟨s,hs,?_⟩
  intro source
  rw [claimIpv4_of_owner hindex hne, Directory.updateEntry, he]
  simp only [bind_some, hs, elim_some, map_some, LanDeviceEntry.withoutIpv4, hip, if_true]

theorem arbitrates_of_leftWeakly (ho : Owned d) (hs : Sourced d) (h : LeftWeakly d id ip) :
    ArbitratesHolders d id ip := by
  refine ⟨?_,?_⟩
  · intro hfree source
    cases hindex : d.byIpv4 ip with
    | none => exact claimIpv4_of_free (by rw [hindex]; rfl)
    | some owner =>
      by_cases hne : owner = id
      · exact claimIpv4_of_free (by rw [hindex, hne, filter_some, if_neg (by simp)])
      · have hrank := rank_le source
        rw [claimIpv4_of_owner hindex hne, if_neg]
        cases he : d.entries owner with
        | none =>
          change ¬source.rank > 255
          omega
        | some e =>
          rw [bind_some]
          obtain hnone | harp := h owner e hindex hne he (hfree owner e he)
          · rw [hnone]
            change ¬source.rank > 255
            omega
          · rw [harp]
            change ¬source.rank > 2
            omega
  · intro holder e hne he hip
    obtain ⟨s,hes,hclaim⟩ := claimIpv4_of_holder ho hs hne he hip
    refine ⟨s,hes,?_⟩
    intro source
    rw [hclaim source]
    by_cases hrank : source.rank > s.rank
    · rw [if_pos hrank]
      refine ⟨⟨nofun,fun hle => ?_⟩,nofun⟩
      omega
    · rw [if_neg hrank]
      refine ⟨⟨fun _ => ?_,fun _ => rfl⟩,fun _ => rfl⟩
      omega

theorem leftWeakly_of_arbitrates (ho : Owned d) (h : ArbitratesHolders d id ip) :
    LeftWeakly d id ip := by
  intro owner e hindex hne he hleft
  -- Whoever held the address would be the one in the index.
  have hfree : ∀ i e', d.entries i = some e' → e'.ipv4 ≠ some ip := by
    intro i e' he' hip
    have hi := ho.ipv4 i ip ⟨e',he',hip⟩
    change d.byIpv4 ip = some i at hi
    rw [hindex] at hi
    cases hi
    rw [he] at he'
    cases he'
    exact hleft hip
  have harp := h.1 hfree .arp
  rw [claimIpv4_of_owner hindex hne, he, bind_some] at harp
  cases hsource : e.ipv4Source with
  | none => exact .inl rfl
  | some s =>
    rw [hsource] at harp
    cases s with
    | static | lease => cases harp
    | arp => exact .inr rfl

end Claim

/-- Whatever happened to the directory, a claim is weighed against a real holder of the address
exactly if no entry that has left it is still indexed under it with a lease or an enrolled address
elsewhere. -/
theorem arbitratesHolders_iff (events : List (Ambient × Event)) (id : Uuid) (ip : Ipv4Addr) :
    ArbitratesHolders (run events) id ip ↔ LeftWeakly (run events) id ip :=
  ⟨leftWeakly_of_arbitrates (sound_run events).toOwned,
    arbitrates_of_leftWeakly (sound_run events).toOwned (sound_run events).sourced⟩

def ambientAt (now : Int) (newId : Uuid) : Ambient := ⟨now,newId,some⟩

def enrolledAt (ip : Ipv4Addr) : EnrolledDevice := ⟨0xD,none,"printer",none,0xA,some ip,none⟩

def readdressed : List (Ambient × Event) :=
  [(ambientAt 1000 1, .device (.updated none (enrolledAt 10))),
    (ambientAt 2000 0, .device (.updated (some (enrolledAt 10)) (enrolledAt 11))),
    (ambientAt 3000 2, .discovery ⟨"lan0",some 0xB,.v4 12,.arp⟩)]

def AlwaysArbitratesHolders : Prop :=
  ∀ events id ip, ((run events).entries id).isSome = true → ArbitratesHolders (run events) id ip

theorem alwaysArbitratesHolders_fails : ¬AlwaysArbitratesHolders := by
  intro h
  have hentry : ((run readdressed).entries 2).isSome = true := by decide +kernel
  have hstale : (run readdressed).byIpv4 10 = some 1 := by decide +kernel
  have hmoved : ((run readdressed).entries 1).any
      (fun e => e.ipv4 = some 11 ∧ e.ipv4Source = some .static) = true := by decide +kernel
  obtain ⟨e,he,hmoved⟩ := (any_eq_true _ _).mp hmoved
  obtain ⟨hip,hsource⟩ := of_decide_eq_true hmoved
  have hleft := leftWeakly_of_arbitrates (sound_run readdressed).toOwned (h readdressed 2 10 hentry)
  have hne : e.ipv4 ≠ some 10 := by
    rw [hip]
    decide
  have hweak := hleft 1 e hstale (by decide) he hne
  rw [hsource] at hweak
  obtain hnone | harp := hweak
  · cases hnone
  · cases harp

end Landscape.LanDevice
