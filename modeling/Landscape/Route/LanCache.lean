import Landscape.Route.WanCache

/-! The LAN cache against the path it stands for: what an entry decides for the packets after the
one that made it. -/
namespace Landscape.Route
open Packet Function

variable {m : Maps} {wan lan : RouteCache} {p : LanPacket} {mark : UInt32} {t : TargetInfo}
  {v : CacheValue}

def TargetInfo.entry (t : TargetInfo) (m : Maps) (mark : UInt32) : CacheValue :=
  ⟨mark,t.mac.isSome,t.isDocker,m.xdpRedirectAble t.ifindex,t.ifindex,t.gateAddr,t.mac.getD 0⟩

/-- A packet leaves an entry only if it was sent to the target of its flow. -/
theorem entry_of_tcRouteLanIngress (hmiss : lan p.key = none)
    (hset : (tcRouteLanIngress m wan lan p).2 p.key = some v) :
    isBroadcastIp p.daddr = false ∧ ∃ mark t, slotTarget m p mark = some t ∧ v = t.entry m mark ∧
      tcUncached m p = (tcPickWanInLan m p mark, replaceFlowSource mark flowFromLan) := by
  have hkept : lan p.key ≠ some v := by simp [hmiss]
  unfold tcRouteLanIngress at hset
  split_ifs at hset with hb
  · exact absurd hset hkept
  split at hset
  case h_2 => exact absurd hset hkept
  split at hset
  case h_2 => exact absurd hset hkept
  rename_i mark hcheck hflow
  have hun : tcUncached m p = (tcPickWanInLan m p mark, replaceFlowSource mark flowFromLan) := by
    simp only [tcUncached, hcheck, hflow]
  dsimp only at hset
  rw [hun] at hset
  split_ifs at hset with hred
  · unfold setCacheInLan at hset
    split_ifs at hset with hwan
    · exact absurd hset hkept
    rw [hmiss] at hset
    dsimp only at hset
    rw [update_self] at hset
    cases ht : slotTarget m p mark with
    | none => simp [tcPickWanInLan, ht, TcAct.redirects] at hred
    | some t =>
      rw [ht] at hset
      exact ⟨by simpa using hb,mark,t,ht,(Option.some_inj.mp hset).symm,hun⟩
  · exact absurd hset hkept

theorem lanCacheVerdict_entry (ht : slotTarget m p mark = some t) :
    lanCacheVerdict m p (t.entry m mark) = pickWanAndSendByFlowId m p mark := by
  have hcached : redirectByCachedTarget m p (t.entry m mark) = pickWanAndSendByFlowId m p mark := by
    unfold redirectByCachedTarget pickWanAndSendByFlowId
    rw [ht]
    obtain ⟨ifindex,isDocker,gateAddr,mac⟩ := t
    cases mac <;> rfl
  unfold lanCacheVerdict
  rw [hcached]
  exact ite_self _

/-- A packet that finds the entry made by one like it is treated as without the cache, unless the
target is behind the interface it came in by: there the cache lets it pass to the host, and the path
without the cache sends it back. -/
theorem lan_cache_replays_iff {wan' lan' : RouteCache} (hmiss : lan p.key = none)
    (hset : (tcRouteLanIngress m wan lan p).2 p.key = some v) (hwan : wan' p.key = none)
    (hlan : lan' p.key = some v) :
    (tcRouteLanIngress m wan' lan' p).1 = tcUncached m p ↔ v.ifindex ≠ p.ifindex := by
  obtain ⟨hb,mark,t,ht,rfl,hun⟩ := entry_of_tcRouteLanIngress hmiss hset
  have hsearch : searchCacheInLan m wan' lan' p = (pickWanAndSendByFlowId m p mark, mark) := by
    simp only [searchCacheInLan, hwan, hlan, lanCacheVerdict_entry ht]
    rfl
  rw [hun]
  unfold tcRouteLanIngress
  rw [if_neg (by simp [hb]), hsearch]
  unfold pickWanAndSendByFlowId tcPickWanInLan
  by_cases h : t.ifindex = p.ifindex <;> simp [ht, h, TargetInfo.entry]

theorem lan_cache_replays_sample : (tcRouteLanIngress twoWans (fun _ => none)
    (tcRouteLanIngress twoWans (fun _ => none) (fun _ => none) toRemote).2 toRemote).1 =
      tcUncached twoWans toRemote := by
  have hset : (tcRouteLanIngress twoWans (fun _ => none) (fun _ => none) toRemote).2 toRemote.key =
      some (TargetInfo.entry ⟨2,false,.v4 0x0a000201,none⟩ twoWans 0) := by decide +kernel
  exact (lan_cache_replays_iff rfl hset rfl hset).mpr (by decide)

/-- A host on the interface of the default flow is sent back to it once, and then no more. -/
theorem lan_cache_replays_fails : ¬∀ (m : Maps) (lan : RouteCache) (p : LanPacket),
    lan p.key = none →
    (tcUncached m p).1.redirects = true → isBroadcastIp p.daddr = false →
    (tcRouteLanIngress m (fun _ => none) (tcRouteLanIngress m (fun _ => none) lan p).2 p).1 =
    tcUncached m p := by
  intro h
  have hsame := h twoWans (fun _ => none) { toRemote with ifindex := 2 } rfl
  revert hsame
  decide +kernel

end Landscape.Route
