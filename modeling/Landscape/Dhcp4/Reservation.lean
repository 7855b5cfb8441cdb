import Landscape.Dhcp4.Ownership

/-! No two clients hold one address, and a reserved address is offered to its MAC only. -/
namespace Landscape.Dhcp4
open Route Run

variable {config : DHCPv4ServerConfig} {devices : List EnrolledDevice} {s : AssignStatus}
  {mac m : MacAddr} {e : StaticBindingEntry} {turns now : Nat} {hostname : Option String}
  {r : Option Ipv4Addr × AssignStatus}

/-- In every history in which clients release addresses of their own, no address is held twice. -/
theorem unique_of_releasesOwn
    (hrun : Runs step ReleasesOwn (fromConfigAndDevices config devices) s) : Unique s :=
  (sound_of_releasesOwn hrun).unique

/-! Sample clients on 192.168.5.0/24, with the pool 192.168.5.200 to 192.168.5.202. -/

private def sampleConfig : DHCPv4ServerConfig where
  ipRangeStart := 0xc0a805c8
  ipRangeEnd := some 0xc0a805cb
  serverIpAddr := 0xc0a80501
  networkMask := 24
  addressLeaseTime := none

private def printer : EnrolledDevice := ⟨0x10,some 0xc0a805c9,none⟩

private def sampleHistory : List Event :=
  [.offerIp 4 0 1 none, .ackRequest 1 1 0xc0a805ca none 3600,
    .addOrUpdateBinding 4 2 2 ⟨0xc0a805ca,none⟩ (some 1), .releaseIp 1 0xc0a805c8,
      .offerIp 4 3 3 none,
    .cleanExpireIp 9000]

/- Offers, a request, a binding that moves a client, a release and an expiry. -/
theorem runs_sampleHistory : ∃ s,
    Runs step ReleasesOwn (fromConfigAndDevices sampleConfig [printer]) s ∧
    s.offeredIp.keys.length = 2 ∧ s.staticBindings.keys.length = 2 :=
  runs_of_decide _ _ sampleHistory _ _ (by decide +kernel)

theorem unique_sample : ∃ s, Runs step ReleasesOwn (fromConfigAndDevices sampleConfig [printer]) s ∧
    s.offeredIp.keys.length = 2 ∧ Unique s := by
  obtain ⟨s,hrun,hlen,-⟩ := runs_sampleHistory
  exact ⟨s,hrun,hlen,unique_of_releasesOwn hrun⟩

def AlwaysUnique : Prop :=
  ∀ config, config.validate = .ok () → ∀ devices : List EnrolledDevice,
    (devices.map (·.mac)).Nodup → (devices.filterMap (·.ipv4)).Nodup →
      ∀ s, Runs step (fun _ _ => True) (fromConfigAndDevices config devices) s → Unique s

/-- A client releases the address of another one, which a third one then gets. -/
theorem unique_fails : ¬AlwaysUnique := by
  intro halways
  obtain ⟨s,hrun,hheld,hheld'⟩ := runs_of_steps step (fromConfigAndDevices sampleConfig [])
    [.ackRequest 0 1 0xc0a805c8 none 3600, .ackRequest 1 2 0xc0a805c9 none 3600,
      .releaseIp 1 0xc0a805c9, .ackRequest 2 3 0xc0a805c9 none 3600]
    (fun s => (s.offeredIp.lookup 2).map (·.ip) = some 0xc0a805c9 ∧
      (s.offeredIp.lookup 3).map (·.ip) = some 0xc0a805c9)
    (by decide +kernel)
  obtain ⟨c,hc,hip⟩ := Option.map_eq_some_iff.mp hheld
  obtain ⟨c',hc',hip'⟩ := Option.map_eq_some_iff.mp hheld'
  have hunique := halways sampleConfig (by decide +kernel) [] (by simp) (by simp) s hrun
  have heq := hunique 2 3 c c' hc hc' (hip.trans hip'.symm)
  exact absurd heq (by decide)

theorem offer_binding (hr : offerIp turns now mac hostname s = .ended r) :
    r.2.staticBindings = s.staticBindings := by
  unfold offerIp at hr
  split at hr
  · cases hr
    split
    · split <;> rfl
    · rfl
  · split at hr
    · cases hr
      rfl
    · exact probe_rule (P := fun s' => s'.staticBindings = s.staticBindings)
        (Q := fun r => r.2.staticBindings = s.staticBindings) (fun _ h => h) (fun _ h => h)
        (fun _ _ h _ _ => h) hr rfl

/-- The address that is returned is recorded for the MAC. -/
theorem offer_recorded (hr : offerIp turns now mac hostname s = .ended r) {a : Ipv4Addr}
    (ha : r.1 = some a) : ∃ c, r.2.offeredIp.lookup mac = some c ∧ c.ip = a := by
  unfold offerIp at hr
  split at hr
  · cases hr
    cases ha
    exact ⟨_,AList.lookup_insert _,rfl⟩
  · split at hr
    · rename_i c hc
      cases hr
      cases ha
      exact ⟨c,hc,rfl⟩
    · exact probe_rule (P := fun _ => True)
        (Q := fun r => ∀ a, r.1 = some a → ∃ c, r.2.offeredIp.lookup mac = some c ∧ c.ip = a)
        (fun _ _ => trivial) nofun
        (fun s _ _ _ _ b hb => ⟨_,AList.lookup_insert _,Option.some.inj hb⟩) hr trivial a ha

/-- An address that is bound is held by no other MAC. -/
theorem Sound.lease_ne (h : Sound s) (he : s.staticBindings.lookup m = some e) (hne : mac ≠ m)
    {c : OfferedCache} (hc : s.offeredIp.lookup mac = some c) : c.ip ≠ e.ipv4 := by
  intro hip
  have hb := h.bound m e he
  cases hst : c.isStatic with
  | true =>
    obtain ⟨e',he',hip'⟩ := h.static mac c hc hst
    have hb' := (h.bound mac e' he').1
    rw [hip', hip, hb.1] at hb'
    exact hne (Option.some.inj hb').symm
  | false =>
    have hd := (h.dynamic mac c hc hst).2
    rw [hip, hb.2] at hd
    cases hd

/-- The address of a binding is marked for its MAC, and no offer gives it to another one. -/
def Reserved (s : AssignStatus) : Prop :=
  ∀ m e, s.staticBindings.lookup m = some e →
    s.allocatedHost.lookup e.ipv4 = some (.static m) ∧
    ∀ mac ≠ m, ∀ turns now hostname r, offerIp turns now mac hostname s = .ended r →
      r.1 ≠ some e.ipv4 ∧ ∀ c, r.2.offeredIp.lookup mac = some c → c.ip ≠ e.ipv4

/-- In every history in which clients release addresses of their own, reservations hold. -/
theorem reserved_of_releasesOwn
    (hrun : Runs step ReleasesOwn (fromConfigAndDevices config devices) s) : Reserved s := by
  intro m e he
  have hs := sound_of_releasesOwn hrun
  refine ⟨(hs.bound m e he).2,?_⟩
  intro mac hne turns now hostname r hr
  have he' : r.2.staticBindings.lookup m = some e := by
    rw [offer_binding hr]
    exact he
  have hlease : ∀ c, r.2.offeredIp.lookup mac = some c → c.ip ≠ e.ipv4 :=
    fun c hc => (hs.offer hr).lease_ne he' hne hc
  refine ⟨?_,hlease⟩
  intro hret
  obtain ⟨c,hc,hip⟩ := offer_recorded hr hret
  exact hlease c hc hip

theorem reserved_sample : ∃ s,
    Runs step ReleasesOwn (fromConfigAndDevices sampleConfig [printer]) s ∧
    s.staticBindings.keys.length = 2 ∧ Reserved s := by
  obtain ⟨s,hrun,-,hlen⟩ := runs_sampleHistory
  exact ⟨s,hrun,hlen,reserved_of_releasesOwn hrun⟩

def AlwaysReserved : Prop :=
  ∀ config, config.validate = .ok () → ∀ devices : List EnrolledDevice,
    (devices.map (·.mac)).Nodup → (devices.filterMap (·.ipv4)).Nodup →
      ∀ s, Runs step (fun _ _ => True) (fromConfigAndDevices config devices) s → Reserved s

/-- A device releases the address that is bound to it: the mark goes, the binding stays. -/
theorem reserved_fails : ¬AlwaysReserved := by
  intro halways
  obtain ⟨s,hrun,hbound,hgone⟩ := runs_of_steps step (fromConfigAndDevices sampleConfig [printer])
    [.releaseIp 0x10 0xc0a805c9] (fun s => s.staticBindings.lookup 0x10 = some ⟨0xc0a805c9,none⟩ ∧
      s.allocatedHost.lookup 0xc0a805c9 = none) (by decide +kernel)
  have hres :=
    halways sampleConfig (by decide +kernel) [printer] (by simp) (by simp [printer]) s hrun
  have hmark := (hres 0x10 _ hbound).1
  rw [hgone] at hmark
  cases hmark

end Landscape.Dhcp4
