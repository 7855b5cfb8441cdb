import Landscape.Dhcp6.PdRate
import Mathlib.Tactic.Ring

/-! When a lease is renewed: the times of the Renews and of the first Rebind, and whose Reply ends
them. -/
namespace Landscape.Dhcp6.PdClient
open Timed Run List Option

section Schedule
variable (held : Held)

def Held.renewAt (k : Nat) : Nat := held.boundTime + secs (held.iapd.t1.toNat + 5 * (k * (k - 1)))

def Held.renewedAt (k : Nat) : Prop :=
  8 * (held.iapd.t2.toNat / 10) ≤ held.iapd.t1.toNat + 5 * (k * (k - 1))

structure LastRenew (K : Nat) : Prop where
  pos : 1 ≤ K
  late : held.renewedAt K
  first : ∀ k, 1 ≤ k → k < K → ¬held.renewedAt k

def Held.rebindAt (K : Nat) : Nat := max (held.boundTime + secs held.iapd.t2.toNat) (held.renewAt K)

def Held.renewLog : Nat → List (Nat × MessageType)
  | 0 => []
  | j + 1 => (held.renewAt (j + 1), .renew) :: Held.renewLog j

def kinds (log : List (Nat × SentMessage)) : List (Nat × MessageType) :=
  log.map fun e => (e.1, e.2.msgType)

def OnSchedule (K : Nat) (base : List (Nat × SentMessage)) (c : Clocked Client) : Prop :=
  ∃ j rebinds, kinds c.state.trace.sent = rebinds ++ (held.renewLog j ++ kinds base) ∧
    j ≤ K ∧ (∀ k, 1 ≤ k → k ≤ K → held.renewAt k < c.now → k ≤ j) ∧
    (∀ e ∈ rebinds, e.2 = .rebind) ∧
    (rebinds ≠ [] → j = K ∧ rebinds.getLast? = some (held.rebindAt K, .rebind)) ∧
    (held.rebindAt K < c.now → rebinds ≠ [])

variable {held} {K : Nat}

theorem renewAt_succ (j : Nat) :
    held.renewAt (j + 2) = held.renewAt (j + 1) + secs (10 * (j + 1)) := by
  have hsq : (j + 2) * (j + 2 - 1) = (j + 1) * (j + 1 - 1) + 2 * (j + 1) := by
    change (j + 2) * (j + 1) = (j + 1) * j + 2 * (j + 1)
    ring
  unfold Held.renewAt secs
  omega

theorem renewAt_one : held.renewAt 1 = held.boundTime + secs held.iapd.t1.toNat := rfl

theorem renewAt_mono {j k : Nat} (h : j ≤ k) : held.renewAt j ≤ held.renewAt k := by
  have hmul : j * (j - 1) ≤ k * (k - 1) := Nat.mul_le_mul h (Nat.sub_le_sub_right h 1)
  unfold Held.renewAt secs
  omega

theorem exists_lastRenew (held : Held) : ∃ K, LastRenew held K := by
  classical
  have hlate : ∃ k, 1 ≤ k ∧ held.renewedAt k := by
    refine ⟨held.iapd.t2.toNat + 1,Nat.le_add_left _ _,?_⟩
    have hle : held.iapd.t2.toNat ≤ (held.iapd.t2.toNat + 1) * held.iapd.t2.toNat :=
      Nat.le_mul_of_pos_left _ (Nat.succ_pos _)
    unfold Held.renewedAt
    rw [Nat.add_sub_cancel]
    omega
  obtain ⟨hpos,hspec⟩ := Nat.find_spec hlate
  exact ⟨_,hpos,hspec,fun k hk hlt hlate' => Nat.find_min hlate hlt ⟨hk,hlate'⟩⟩

end Schedule

/-- Nothing that arrives is garbled or accepted, and nobody stops the client. -/
def Quiet (cfg : Config) (c : Clocked Client) : Moment Drawn → Prop
  | .event ⟨_,.datagram d⟩ => d.garbled = false ∧ acceptedReply cfg c.state.status d = none
  | .event ⟨_,.stop⟩ => False
  | _ => True

def Held.expiry (held : Held) : Nat := held.boundTime + held.iapd.validLifetime

inductive Phase (held : Held) (K : Nat) (base : List (Nat × SentMessage)) (c : Clocked Client) :
    Prop
  | bound (xid : UInt32) : c.state.status = .bound xid held →
      kinds c.state.trace.sent = kinds base →
    c.deadline = min (held.renewAt 1) held.expiry → Phase held K base c
  | renew (xid : UInt32) (since j : Nat) : c.state.status = .renew xid held since → j < K →
    kinds c.state.trace.sent = held.renewLog j ++ kinds base → c.state.timeoutTimes = j + 1 →
    c.deadline = min (held.renewAt (j + 1)) held.expiry → Phase held K base c
  | waitToRebind (xid : UInt32) : c.state.status = .waitToRebind xid held →
    kinds c.state.trace.sent = held.renewLog K ++ kinds base →
    c.deadline = min (held.rebindAt K) held.expiry → Phase held K base c
  | rebind (xid : UInt32) (since : Nat) : c.state.status = .rebind xid held since →
    kinds c.state.trace.sent = held.renewLog K ++ kinds base → c.deadline = held.rebindAt K →
      Phase held K base c
  | rebinding (xid : UInt32) (since : Nat) (again : List (Nat × MessageType)) :
    c.state.status = .rebind xid held since → (∀ e ∈ again, e.2 = .rebind) →
    kinds c.state.trace.sent = again ++ (held.rebindAt K, .rebind) ::
      (held.renewLog K ++ kinds base) →
    Phase held K base c
  | ended : held.expiry ≤ c.now → Phase held K base c

section Run
variable {cfg : Config} {held : Held} {K : Nat} {base : List (Nat × SentMessage)}
  {c : Clocked Client}

theorem onSchedule_of_phase (h : Phase held K base c) (hK : LastRenew held K)
    (hdue : c.now ≤ c.deadline) (hvalid : c.now < held.expiry) : OnSchedule held K base c := by
  -- Nothing of the schedule is due before the timer.
  have hlater : ∀ j, c.deadline ≤ held.renewAt (j + 1) → ∀ k, held.renewAt k < c.now → k ≤ j := by
    intro j hle k hlt
    by_cases hjk : k ≤ j
    · exact hjk
    · have hmono : held.renewAt (j + 1) ≤ held.renewAt k := renewAt_mono (Nat.lt_of_not_le hjk)
      omega
  have hrebind : ∀ j, j ≤ K → c.deadline ≤ held.renewAt j → ¬held.rebindAt K < c.now := by
    intro j hj hle hlt
    have hmono : held.renewAt j ≤ held.renewAt K := renewAt_mono hj
    unfold Held.rebindAt at hlt
    omega
  cases h with
  | bound xid _ hsent hdl =>
    have hle : c.deadline ≤ held.renewAt 1 := hdl ▸ min_le_left _ _
    exact ⟨0,[],hsent,Nat.zero_le _,fun k _ _ => hlater 0 hle k,nofun,nofun,
      fun hlt => absurd hlt (hrebind 1 hK.pos hle)⟩
  | renew xid since j _ hj hsent _ hdl =>
    have hle : c.deadline ≤ held.renewAt (j + 1) := hdl ▸ min_le_left _ _
    exact ⟨j,[],hsent,le_of_lt hj,fun k _ _ => hlater j hle k,nofun,nofun,
      fun hlt => absurd hlt (hrebind (j + 1) hj hle)⟩
  | waitToRebind xid _ hsent hdl =>
    have hle : c.deadline ≤ held.rebindAt K := hdl ▸ min_le_left _ _
    exact ⟨K,[],hsent,le_refl K,fun _ _ hk _ => hk,nofun,nofun,
      fun hlt => absurd hlt (not_lt.mpr (le_trans hdue hle))⟩
  | rebind xid since _ hsent hdl =>
    exact ⟨K,[],hsent,le_refl K,fun _ _ hk _ => hk,nofun,nofun,
      fun hlt => absurd hlt (not_lt.mpr (hdl ▸ hdue))⟩
  | rebinding xid since again _ hall hsent =>
    refine ⟨K,again ++ [(held.rebindAt K, .rebind)],?_,le_refl K,fun _ _ hk _ => hk,?_,?_,?_⟩
    · rw [hsent, append_assoc]
      rfl
    · intro e he
      obtain he | he := mem_append.mp he
      · exact hall e he
      · rw [mem_singleton.mp he]
    · exact fun _ => ⟨rfl,getLast?_concat⟩
    · exact fun _ => concat_ne_nil _ _
  | ended hover => exact absurd hvalid (not_lt.mpr hover)

theorem Phase.holds (h : Phase held K base c) (hvalid : c.now < held.expiry) :
    c.state.status.held? = some held := by
  cases h with
  | bound _ hst | renew _ _ _ hst | waitToRebind _ hst | rebind _ _ hst | rebinding _ _ _ hst =>
    rw [hst]
    rfl
  | ended hover => exact absurd hvalid (not_lt.mpr hover)

/- The phase of a client whose state is known. -/
theorem Phase.of_status (h : Phase held K base c) (hvalid : c.now < held.expiry) :
    match c.state.status with
    | .bound _ _ => kinds c.state.trace.sent = kinds base ∧
        c.deadline = min (held.renewAt 1) held.expiry
    | .renew _ _ _ => ∃ j, j < K ∧ kinds c.state.trace.sent = held.renewLog j ++ kinds base ∧
        c.state.timeoutTimes = j + 1 ∧ c.deadline = min (held.renewAt (j + 1)) held.expiry
    | .waitToRebind _ _ => kinds c.state.trace.sent = held.renewLog K ++ kinds base ∧
        c.deadline = min (held.rebindAt K) held.expiry
    | .rebind _ _ _ => kinds c.state.trace.sent = held.renewLog K ++ kinds base ∧
        c.deadline = held.rebindAt K ∨
        ∃ again, (∀ e ∈ again, e.2 = MessageType.rebind) ∧ kinds c.state.trace.sent =
          again ++ (held.rebindAt K, .rebind) :: (held.renewLog K ++ kinds base)
    | _ => False := by
  cases h with
  | bound _ hst hsent hdl | waitToRebind _ hst hsent hdl =>
    rw [hst]
    exact ⟨hsent,hdl⟩
  | renew _ _ j hst hj hsent htimes hdl =>
    rw [hst]
    exact ⟨j,hj,hsent,htimes,hdl⟩
  | rebind _ _ hst hsent hdl =>
    rw [hst]
    exact .inl ⟨hsent,hdl⟩
  | rebinding _ _ again hst hall hsent =>
    rw [hst]
    exact .inr ⟨again,hall,hsent⟩
  | ended hover => exact absurd hvalid (not_lt.mpr hover)

theorem rebindSecs_of_pos (ht : held.iapd.t2 ≠ 0) : held.iapd.rebindSecs = held.iapd.t2.toNat :=
  if_neg ht

theorem renewingOver_iff (ht : held.iapd.t2 ≠ 0) (k : Nat) :
    renewingOver (held.renewAt k) held = true ↔ held.renewedAt k := by
  have hsecs : (held.renewAt k - held.boundTime) / 1000 =
      held.iapd.t1.toNat + 5 * (k * (k - 1)) := by
    rw [Held.renewAt, Nat.add_sub_cancel_left, secs]
    exact Nat.mul_div_cancel _ (by decide)
  rw [renewingOver, hsecs, rebindSecs_of_pos ht, decide_eq_true_iff, mul_comm (_ / 10)]
  exact Iff.rfl

section Timer
variable {newXid xid : UInt32} {wait since : Nat} {s : Client} (h : Phase held K base c)
  (hdue : c.now = c.deadline)
include h hdue

theorem renew_due (hvalid : c.now < held.expiry)
    (hstatus : c.state.status = .renew xid held since) :
    ∃ j, j < K ∧ c.state.timeoutTimes = j + 1 ∧ c.now = held.renewAt (j + 1) ∧
      (c.now, MessageType.renew) :: kinds c.state.trace.sent = held.renewLog (j + 1) ++
      kinds base := by
  have hphase := h.of_status hvalid
  rw [hstatus] at hphase
  obtain ⟨j,hj,hsent,htimes,hdl⟩ := hphase
  have hnow : c.now = held.renewAt (j + 1) := by omega
  refine ⟨j,hj,htimes,hnow,?_⟩
  rw [hsent, hnow]
  rfl

theorem Phase.fired (hK : LastRenew held K) (ht : held.iapd.t2 ≠ 0) (hs : Sound c)
    (hf : Fired cfg c.now newXid c.state wait s) : Phase held K base ⟨c.now,c.now + wait,s⟩ := by
  by_cases hover : held.expiry ≤ c.now
  · exact .ended hover
  have hvalid : c.now < held.expiry := Nat.lt_of_not_le hover
  have hheld := h.holds hvalid
  have hphase := h.of_status hvalid
  have hrem : c.now + held.remaining c.now = held.expiry := hs.remaining hheld
  have hbound := hs.bound held hheld
  cases hf with
  | backOff _ _ hstatus | solicit _ hstatus | request _ _ _ _ _ hstatus
  | requestOver _ _ _ _ _ hstatus =>
    rw [hstatus] at hheld
    cases hheld
  | expired held' hheld' hzero =>
    rw [hheld] at hheld'
    cases hheld'
    omega
  | bound xid held' hstatus _ hwait =>
    rw [hstatus] at hheld hphase
    cases hheld
    refine .renew newXid c.now 0 rfl hK.pos hphase.1 rfl ?_
    change c.now + wait = min (held.renewAt 1) held.expiry
    omega
  | renew xid held' since hstatus _ hnot hwait =>
    rw [hstatus] at hheld
    cases hheld
    obtain ⟨j,hj,htimes,hnow,hlog⟩ := renew_due h hdue hvalid hstatus
    -- This one is not late enough to be the last.
    have hmore : j + 1 < K := by
      refine Nat.lt_of_le_of_ne hj ?_
      rintro rfl
      rw [hnow, (renewingOver_iff ht _).mpr hK.late] at hnot
      cases hnot
    have hnext : held.renewAt (j + 2) = held.renewAt (j + 1) + secs (10 * (j + 1)) := renewAt_succ j
    refine .renew xid since (j + 1) rfl hmore hlog (congrArg (· + 1) htimes) ?_
    dsimp only
    rw [hwait, htimes, hnext, ← hnow]
    omega
  | renewOver xid held' since hstatus _ hlast hwait =>
    rw [hstatus] at hheld
    cases hheld
    obtain ⟨j,hj,htimes,hnow,hlog⟩ := renew_due h hdue hvalid hstatus
    have hK' : j + 1 = K := by
      refine Nat.le_antisymm hj (Nat.le_of_not_lt fun hlt => ?_)
      rw [hnow] at hlast
      exact hK.first (j + 1) (Nat.le_add_left _ _) hlt ((renewingOver_iff ht _).mp hlast)
    rw [hK'] at hnow hlog
    refine .waitToRebind xid rfl hlog ?_
    dsimp only
    rw [hwait, rebindSecs_of_pos ht, Held.rebindAt, ← hnow]
    omega
  | waitToRebind xid held' hstatus _ hwait =>
    rw [hstatus] at hheld hphase
    cases hheld
    refine .rebind newXid c.now rfl hphase.1 ?_
    dsimp only
    omega
  | rebind xid held' since hstatus =>
    rw [hstatus] at hheld hphase
    cases hheld
    obtain ⟨hsent,hdl⟩ | ⟨again,hall,hsent⟩ := hphase
    · refine .rebinding xid since [] rfl nofun ?_
      change (c.now, _) :: kinds c.state.trace.sent = _
      rw [hsent, hdue, hdl]
      rfl
    · exact .rebinding xid since ((c.now, .rebind) :: again) rfl (forall_mem_cons.mpr ⟨rfl,hall⟩)
        (congrArg ((c.now, MessageType.rebind) :: ·) hsent)

end Timer

theorem Phase.idle {c' : Clocked Client} (h : Phase held K base c) (hnow : c.now ≤ c'.now)
    (hdl : c'.deadline = c.deadline) (hst : c'.state.status = c.state.status)
    (htimes : c'.state.timeoutTimes = c.state.timeoutTimes)
    (hsent : c'.state.trace.sent = c.state.trace.sent) :
    Phase held K base c' := by
  cases h with
  | bound xid h1 h2 h3 => exact .bound xid (hst.trans h1) (hsent ▸ h2) (hdl.trans h3)
  | renew xid since j h1 hj h2 h3 h4 =>
    exact .renew xid since j (hst.trans h1) hj (hsent ▸ h2) (htimes.trans h3) (hdl.trans h4)
  | waitToRebind xid h1 h2 h3 => exact .waitToRebind xid (hst.trans h1) (hsent ▸ h2) (hdl.trans h3)
  | rebind xid since h1 h2 h3 => exact .rebind xid since (hst.trans h1) (hsent ▸ h2) (hdl.trans h3)
  | rebinding xid since again h1 hall h2 =>
    exact .rebinding xid since again (hst.trans h1) hall (hsent ▸ h2)
  | ended hover => exact .ended (le_trans hover hnow)

theorem Phase.turn {c' : Clocked Client} {m : Moment Drawn} (hK : LastRenew held K)
    (ht2 : held.iapd.t2 ≠ 0) (ht : Turn cfg c m c') (hq : Quiet cfg c m)
    (hs : c.state.running = true → Sound c) (h : Phase held K base c) : Phase held K base c' := by
  cases ht with
  | pass d => exact h.idle (Nat.le_add_right _ _) rfl rfl rfl rfl
  | ended => exact h
  | timer _ _ _ hlive hdue hf => exact h.fired hdue hK ht2 (hs hlive) hf
  | datagram _ d _ _ _ hr =>
    by_cases hover : held.expiry ≤ c.now
    · exact .ended hover
    have hheld := h.holds (Nat.lt_of_not_le hover)
    cases hr with
    | garbled _ hd =>
      rw [hq.1] at hd
      cases hd
    | advertise _ _ _ _ _ hstatus =>
      rw [hstatus] at hheld
      cases hheld
    | reply _ _ _ _ hacc =>
      rw [hq.2] at hacc
      cases hacc
    | refused => exact h.idle (le_refl _) rfl rfl rfl rfl
  | stop => exact hq.elim

end Run

def KeepsSchedule (cfg : Config) (P : Clocked Client → Moment Drawn → Prop) (c : Clocked Client) :
    Prop :=
  ∀ random d iapd p c₀, acceptedReply cfg c.state.status d = some (iapd, p) →
    (loop cfg).step c (.event ⟨random,.datagram d⟩) = some c₀ → 0 < iapd.t1 → iapd.t1 ≤ iapd.t2 →
    ∃ held K, held.iapd = iapd ∧ held.boundTime = c.now ∧ LastRenew held K ∧
      ∀ c₁, Runs (loop cfg).step P c₀ c₁ → c₁.now < held.expiry →
        OnSchedule held K c₀.state.trace.sent c₁

/-- A successful Reply with a prefix, to the transaction that the client is in. -/
structure Answers (cfg : Config) (status : IpV6PdState) (msg : Message) (iapd : IAPD)
    (p : IAPrefix) : Prop where
  reply : msg.msgType = .reply
  current : msg.xid = status.getXid
  own : ∀ cid ∈ msg.clientId, cid = cfg.clientId
  offer : msg.iapd = some iapd
  usable : iapd.usable = some p

def Takes (cfg : Config) (c : Clocked Client) (d : Datagram) (iapd : IAPD) : Prop :=
  ∀ random c', (loop cfg).step c (.event ⟨random,.datagram d⟩) = some c' →
    ∃ xid held, c'.state.status = .bound xid held ∧ held.iapd = iapd ∧ held.boundTime = c.now

def TakesReplies (cfg : Config) (ok : Held → Option Duid → Prop) (c : Clocked Client) : Prop :=
  ∀ source msg iapd p, Answers cfg c.state.status msg iapd p →
    (∀ xid held since, c.state.status = .renew xid held since → msg.serverId = some held.serviceId →
      Takes cfg c ⟨some source,some msg⟩ iapd) ∧
    (∀ xid held since, c.state.status = .rebind xid held since → ok held msg.serverId →
      Takes cfg c ⟨some source,some msg⟩ iapd)

variable {cfg : Config} {c : Clocked Client} {iapd : IAPD} {p : IAPrefix} {d : Datagram}
  {m : Moment Drawn}

theorem bound_of_accepted {random : UInt32} {c₀ : Clocked Client} (hlive : c.state.running = true)
    (h : acceptedReply cfg c.state.status d = some (iapd, p))
    (hstep : (loop cfg).step c (.event ⟨random,.datagram d⟩) = some c₀) :
    ∃ xid held, c₀.state.status = .bound xid held ∧ held.iapd = iapd ∧ held.boundTime = c.now ∧
      c₀.now = c.now ∧ c₀.deadline = c.now + statusTimeoutDuration c.now (.bound xid held) 0 := by
  cases turn_of_step hstep with
  | ended _ hstopped =>
    rw [hlive] at hstopped
    cases hstopped
  | datagram _ _ _ _ _ hr =>
    cases hr with
    | garbled _ _ hnone | refused _ _ hnone | advertise _ _ _ _ _ _ hnone =>
      rw [h] at hnone
      cases hnone
    | reply failures source held p' hacc _ htime =>
      rw [h] at hacc
      cases hacc
      exact ⟨_,held,rfl,rfl,htime,rfl,rfl⟩

theorem keepsSchedule (hs : Sound c) (hlive : c.state.running = true) :
    KeepsSchedule cfg (Quiet cfg) c := by
  intro random d iapd p c₀ haccepted hstep hpos hle
  obtain ⟨xid,held,hstatus,rfl,htime,hnow,hdl⟩ := bound_of_accepted hlive haccepted hstep
  obtain ⟨K,hK⟩ := exists_lastRenew held
  have ht2 : held.iapd.t2 ≠ 0 := by
    intro hzero
    rw [hzero] at hle
    exact absurd hpos (UInt32.not_lt.mpr hle)
  refine ⟨held,K,rfl,htime,hK,fun c₁ hrun hvalid => ?_⟩
  have hrem : held.remaining c.now = held.iapd.validLifetime := by
    rw [Held.remaining, htime, Nat.sub_self, Nat.sub_zero]
  have hinv := hrun.invariant
    (fun c₁ => Phase held K c₀.state.trace.sent c₁ ∧ (c₁.state.running = true → Sound c₁) ∧
      c₁.now ≤ c₁.deadline)
    (fun _ _ _ h hq hstep => ⟨h.1.turn hK ht2 (turn_of_step hstep) hq h.2.1,
      Sound.turn (turn_of_step hstep) h.2.1,step_now_le h.2.2 hstep⟩)
    ⟨.bound xid hstatus rfl ?_,Sound.turn (turn_of_step hstep) fun _ => hs,by omega⟩
  · exact onSchedule_of_phase hinv.1 hK hinv.2.2 hvalid
  · rw [hdl, timeout_of_held c.now rfl, hrem, renewAt_one, Held.expiry, htime, Nat.add_min_add_left]
    rfl

theorem not_any_ne_iff {α : Type} [DecidableEq α] {o : Option α} {x : α} :
    (¬o.any (· ≠ x)) ↔ ∀ y ∈ o, y = x := by
  cases o <;> simp

theorem acceptedReply_of_answers {msg : Message} {source : Ipv6Addr} {serviceId : Duid}
    (h : Answers cfg c.state.status msg iapd p) (hsid : c.state.status.serviceId? = some serviceId)
    (hcan : c.state.status.canHandleMessage .reply) :
    acceptedReply cfg c.state.status ⟨some source,some msg⟩ =
      if ∀ sid ∈ msg.serverId, sid = serviceId then some (iapd, p) else none := by
  have hclient := not_any_ne_iff.mpr h.own
  have hserver := not_any_ne_iff (o := msg.serverId) (x := serviceId)
  simp only [acceptedReply, hsid, h.offer, bind_some, h.usable, map_some]
  refine if_congr ⟨fun hall => hserver.mp hall.2.2.2,fun hall => ?_⟩ rfl rfl
  exact ⟨h.current,hclient,h.reply ▸ hcan,hserver.mpr hall⟩

theorem takes_of_accepted (hlive : c.state.running = true)
    (h : acceptedReply cfg c.state.status d = some (iapd, p)) : Takes cfg c d iapd := by
  intro random c' hstep
  obtain ⟨xid,held,hbound,hiapd,htime,-⟩ := bound_of_accepted hlive h hstep
  exact ⟨xid,held,hbound,hiapd,htime⟩

theorem answers_of_accepted (h : acceptedReply cfg c.state.status d = some (iapd, p)) :
    ∃ msg, d.message = some msg ∧ Answers cfg c.state.status msg iapd p := by
  unfold acceptedReply at h
  split at h
  · rename_i msg serviceId _ hmsg hsid
    split at h
    · rename_i hok
      obtain ⟨iapd',hoffer,husable⟩ := bind_eq_some_iff.mp h
      obtain ⟨p',hp,heq⟩ := map_eq_some_iff.mp husable
      cases heq
      refine ⟨msg,hmsg,?_,hok.1,not_any_ne_iff.mp hok.2.1,hoffer,hp⟩
      -- Only a state that waits for a Reply has a server to check it against.
      have hcan := hok.2.2.1
      revert hcan hsid
      cases c.state.status <;> cases msg.msgType <;>
        simp [IpV6PdState.canHandleMessage, IpV6PdState.serviceId?]
    · cases h
  · cases h

/-- No Reply of the running transaction arrives, and nobody stops the client. -/
def Unanswered (cfg : Config) (c : Clocked Client) : Moment Drawn → Prop
  | .event ⟨_,.datagram d⟩ => ∀ msg iapd p, d.message = some msg →
      ¬Answers cfg c.state.status msg iapd p
  | .event ⟨_,.stop⟩ => False
  | _ => True

def Decoded : Moment Drawn → Prop
  | .event ⟨_,.datagram d⟩ => d.garbled = false
  | _ => True

theorem quiet_of_unanswered (h : Unanswered cfg c m) (hd : Decoded m) : Quiet cfg c m := by
  match m, h, hd with
  | .pass _, _, _ => trivial
  | .event ⟨_,.timer⟩, _, _ => trivial
  | .event ⟨_,.stop⟩, h, _ => exact h
  | .event ⟨_,.datagram d⟩, h, hd =>
    refine ⟨hd,eq_none_iff_forall_ne_some.mpr fun r hr => ?_⟩
    obtain ⟨msg,hmsg,hanswers⟩ := answers_of_accepted hr
    exact h msg r.1 r.2 hmsg hanswers

theorem not_takes {xid : UInt32} {held : Held} {since : Nat}
    (hstatus : c.state.status = .rebind xid held since)
    (hnone : acceptedReply cfg c.state.status d = none) : ¬Takes cfg c d iapd := by
  intro htakes
  obtain ⟨c',hstep⟩ : ∃ c', (loop cfg).step c (.event ⟨0,.datagram d⟩) = some c' := ⟨_,rfl⟩
  obtain ⟨xid',held',hbound,-,-⟩ := htakes 0 c' hstep
  have hsame : c'.state.status = .rebind xid held since := by
    cases turn_of_step hstep with
    | ended => exact hstatus
    | datagram _ _ _ _ _ hr =>
      cases hr with
      | garbled | refused => exact hstatus
      | advertise _ _ _ _ _ hsolicit =>
        rw [hstatus] at hsolicit
        cases hsolicit
      | reply _ _ _ _ hacc =>
        rw [hnone] at hacc
        cases hacc
  rw [hsame] at hbound
  cases hbound

/-- While only messages arrive that are no Reply to the client, the schedule is kept; and a Reply is
taken while rebinding just when it names no other server. -/
theorem renewal_of_decoded {now : Nat} {random : UInt32}
    (hrun : Runs (loop cfg).step (fun _ _ => True) (start now random) c)
    (hlive : c.state.running = true) :
    KeepsSchedule cfg (fun c m => Unanswered cfg c m ∧ Decoded m) c ∧
      TakesReplies cfg (fun held server => ∀ sid ∈ server, sid = held.serviceId) c ∧
      ∀ source msg iapd p xid held since, Answers cfg c.state.status msg iapd p →
        c.state.status = .rebind xid held since → Takes cfg c ⟨some source,some msg⟩ iapd →
        ∀ sid ∈ msg.serverId, sid = held.serviceId := by
  refine ⟨?_,?_,?_⟩
  · intro random d iapd p c₀ haccepted hstep hpos hle
    obtain ⟨held,K,hiapd,htime,hK,hkeeps⟩ :=
      keepsSchedule (sound_of_runs hrun hlive) hlive random d iapd p c₀ haccepted hstep hpos hle
    refine ⟨held,K,hiapd,htime,hK,fun c₁ hlater => hkeeps c₁ (hlater.mono ?_)⟩
    exact fun _ _ hm => quiet_of_unanswered hm.1 hm.2
  · intro source msg iapd p hanswers
    refine ⟨fun xid held since hstatus hserver => ?_,fun xid held since hstatus hserver => ?_⟩
    · refine takes_of_accepted (p := p) hlive ?_
      rw [acceptedReply_of_answers hanswers (by rw [hstatus]; rfl) (by rw [hstatus]; rfl), if_pos]
      intro sid hsid
      rw [hserver] at hsid
      exact (mem_some.mp hsid).symm
    · refine takes_of_accepted (p := p) hlive ?_
      rw [acceptedReply_of_answers hanswers (by rw [hstatus]; rfl) (by rw [hstatus]; rfl),
        if_pos hserver]
  · intro source msg iapd p xid held since hanswers hstatus htakes
    by_cases hserver : ∀ sid ∈ msg.serverId, sid = held.serviceId
    · exact hserver
    · refine absurd htakes (not_takes hstatus ?_)
      rw [acceptedReply_of_answers hanswers (by rw [hstatus]; rfl) (by rw [hstatus]; rfl),
        if_neg hserver]

def strayDatagram : Datagram := ⟨some sampleServer,some ⟨.reply,1,none,none,none,none⟩⟩

def beforeReply : List (Moment Drawn) :=
  [timerFires, sampleDatagram .advertise [samplePrefix], timerFires]

def replyDatagram : Datagram :=
  ⟨some sampleServer,some ⟨.reply,0,none,some [1],none,some (sampleIapd [samplePrefix])⟩⟩

def renewals : List (Moment Drawn) :=
  [.pass 100000, timerFires, timerFires, .event ⟨0,.datagram strayDatagram⟩, .pass 10000,
    timerFires, .pass 20000, timerFires, .pass 30000, timerFires, timerFires]

def strays (c : Clocked Client) : Moment Drawn → Bool
  | .event ⟨_,.datagram d⟩ => !d.garbled && d.message.all fun msg => msg.xid ≠ c.state.status.getXid
  | .event ⟨_,.stop⟩ => false
  | _ => true

theorem of_strays (h : strays c m = true) : Unanswered cfg c m ∧ Decoded m := by
  match m, h with
  | .pass _, _ | .event ⟨_,.timer⟩, _ => exact ⟨trivial,trivial⟩
  | .event ⟨_,.datagram d⟩, h =>
    simp only [strays, Bool.and_eq_true, Bool.not_eq_true'] at h
    refine ⟨fun msg iapd p hmsg hanswers => ?_,h.1⟩
    have hxid := h.2
    rw [hmsg, all_some, decide_eq_true_iff] at hxid
    exact hxid hanswers.current

theorem renewal_sample : ∃ c c₀ c₁ held K,
    Runs (loop sampleConfig).step (fun _ _ => True) (start 0 0) c ∧ c.state.running = true ∧
    (loop sampleConfig).step c (.event ⟨0,.datagram replyDatagram⟩) = some c₀ ∧
    Runs (loop sampleConfig).step (fun c m => Unanswered sampleConfig c m ∧ Decoded m) c₀ c₁ ∧
    c₁.now = 160000 ∧ OnSchedule held K c₀.state.trace.sent c₁ ∧
    (kinds c₁.state.trace.sent).take 4 =
      [(160000, .rebind), (130000, .renew), (110000, .renew), (100000, .renew)] := by
  obtain ⟨c,hrun,hlive,hnow,haccepted,c₀,hstep,c₁,hlater,hnow₁,hlog⟩ :=
    runs_of_steps (loop sampleConfig).step (start 0 0) beforeReply
      (fun c => c.state.running = true ∧ c.now = 0 ∧
        acceptedReply sampleConfig c.state.status replyDatagram =
        some (sampleIapd [samplePrefix], samplePrefix) ∧
        ∃ c₀ ∈ (loop sampleConfig).step c (.event ⟨0,.datagram replyDatagram⟩),
          ∃ c₁ ∈ stepsWithin (loop sampleConfig).step strays c₀ renewals,
            c₁.now = 160000 ∧ (kinds c₁.state.trace.sent).take 4 =
              [(160000, .rebind), (130000, .renew), (110000, .renew), (100000, .renew)])
                (by decide +kernel)
  replace hlater := runs_stepsWithin (fun _ _ h => @of_strays sampleConfig _ _ h) hlater
  obtain ⟨held,K,hiapd,htime,-,hkeeps⟩ :=
    (renewal_of_decoded hrun hlive).1 0 _ _ _ c₀ haccepted hstep (by decide) (by decide)
  have hexpiry : held.expiry = 300000 := by
    rw [Held.expiry, hiapd, htime, hnow]
    decide
  refine ⟨c,c₀,c₁,held,K,hrun,hlive,hstep,hlater,hnow₁,hkeeps c₁ hlater ?_,hlog⟩
  rw [hnow₁, hexpiry]
  decide

/-- Whatever arrives that is no Reply to the client, and whichever server answers a Rebind. -/
def AlwaysRenews : Prop :=
  ∀ cfg now random c, Runs (loop cfg).step (fun _ _ => True) (start now random) c →
    c.state.running = true →
    KeepsSchedule cfg (Unanswered cfg) c ∧ TakesReplies cfg (fun _ _ => True) c

def postponed : List (Moment Drawn) := [.pass 50000, .event ⟨0,.datagram noise⟩, .pass 100000]

def garbledOnly (_ : Clocked Client) : Moment Drawn → Bool
  | .event ⟨_,.datagram d⟩ => d.message.isNone
  | .event ⟨_,.stop⟩ => false
  | _ => true

theorem of_garbledOnly (h : garbledOnly c m = true) : Unanswered cfg c m := by
  match m, h with
  | .pass _, _ => trivial
  | .event ⟨_,.timer⟩, _ => trivial
  | .event ⟨_,.datagram d⟩, h =>
    intro msg iapd p hmsg _
    change d.message.isNone = true at h
    rw [hmsg] at h
    cases h

theorem length_renewLog (held : Held) (j : Nat) : (held.renewLog j).length = j := by
  induction j with
  | zero => rfl
  | succ j ih => exact congrArg (· + 1) ih

theorem alwaysRenews_fails : ¬AlwaysRenews := by
  intro h
  obtain ⟨c,hrun,hlive,hnow,haccepted,c₀,hstep,c₁,hlater,hnow₁,hlog⟩ :=
    runs_of_steps (loop sampleConfig).step (start 0 0) beforeReply
      (fun c => c.state.running = true ∧ c.now = 0 ∧
        acceptedReply sampleConfig c.state.status replyDatagram =
        some (sampleIapd [samplePrefix], samplePrefix) ∧
        ∃ c₀ ∈ (loop sampleConfig).step c (.event ⟨0,.datagram replyDatagram⟩),
          ∃ c₁ ∈ stepsWithin (loop sampleConfig).step garbledOnly c₀ postponed,
            c₁.now = 150000 ∧ kinds c₁.state.trace.sent =
              kinds c₀.state.trace.sent) (by decide +kernel)
  replace hlater :=
    runs_stepsWithin (P := Unanswered sampleConfig) (fun _ _ h => of_garbledOnly h) hlater
  obtain ⟨held,K,hiapd,htime,hK,hkeeps⟩ :=
    (h sampleConfig 0 0 c hrun hlive).1 0 _ _ _ c₀ haccepted hstep (by decide) (by decide)
  have hexpiry : held.expiry = 300000 := by
    rw [Held.expiry, hiapd, htime, hnow]
    decide
  have hfirst : held.renewAt 1 = 100000 := by
    rw [renewAt_one, hiapd, htime, hnow]
    decide
  obtain ⟨j,rebinds,hsent,-,hall,-⟩ := hkeeps c₁ hlater (by rw [hnow₁, hexpiry]; decide)
  -- The first Renew was due, and nothing was sent.
  have hone : 1 ≤ j := hall 1 (le_refl 1) hK.pos (by rw [hnow₁, hfirst]; decide)
  have hlen := congrArg length hsent
  rw [hlog, length_append, length_append, length_renewLog] at hlen
  omega

end Landscape.Dhcp6.PdClient
