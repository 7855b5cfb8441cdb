import Landscape.Dhcp4.ClientExpiry

/-! The timer of the client is always set, and the times of a lease are in order. -/
namespace Landscape.Dhcp4.Client
open Dhcp4 FsmAction

def onTimerCalls (env : Env) : Nat → DhcpV4Fsm → Option (DhcpV4Fsm × List FsmAction)
  | 0, _ => none
  | depth + 1, f =>
    match f.state with
    | .discovering xid requested => some (onTimerDiscovering env f xid requested)
    | .requesting xid offer =>
      if f.attempts ≥ requestAttempts then
        onTimerCalls env depth { f with state := .discovering env.xid none, attempts := 0 }
      else some (onTimerRequesting env f xid offer)
    | .bound lease =>
      let lease := { lease with xid := env.xid, ciaddr := lease.yiaddr, yiaddr := 0 }
      onTimerCalls env depth { f with state := .renewing lease, attempts := 0 }
    | .renewing lease => some (onTimerRenewing env f lease)
    | .waitToRebind lease =>
      let lease := { lease with xid := env.xid, yiaddr := 0 }
      onTimerCalls env depth { f with state := .rebind lease, attempts := 0 }
    | .rebind lease =>
      if env.now > lease.leaseAt then
        (onTimerCalls env depth { f with state := .discovering env.xid none, attempts := 0 }).map
          fun r => (r.1, .releaseLease :: r.2)
      else some (onTimerRebind env f lease)

def FsmAction.isTimer : FsmAction → Bool
  | .scheduleTimer _ => true
  | _ => false

def FsmAction.isSend : FsmAction → Bool
  | .send _ _ => true
  | _ => false

/-- The machine and whether a timer is pending, which the driver sets anew with `ScheduleTimer`. -/
def driverStep (s : DhcpV4Fsm × Bool) (e : Env × FsmEvent) : DhcpV4Fsm × Bool :=
  let r := onEvent e.1 s.1 e.2
  (r.1, r.2.any isTimer || s.2 && !e.2.isTimer)

def OneTimer (actions : List FsmAction) : Prop :=
  actions.countP isTimer = 1 ∧ actions.countP isSend ≤ 1

variable {env : Env} {f : DhcpV4Fsm} {lease : LeaseContext} {s : DhcpV4Fsm × Bool}

/- A rebinding that is too late calls `on_timer` for the state `Discovering`, which is the
   deepest. -/
theorem onTimerCalls_eq : onTimerCalls env 3 f = some (onTimer env f) := by
  have hrebind : ∀ (f : DhcpV4Fsm) lease, f.state = .rebind lease →
      onTimerCalls env 2 f = some (onTimerRebind env f lease) := by
    intro f lease h
    simp only [onTimerCalls, h, onTimerRebind]
    split <;> rfl
  unfold onTimer
  cases h : f.state with
  | discovering xid requested => simp [onTimerCalls, h]
  | requesting xid offer =>
    simp only [onTimerCalls, h, onTimerRequesting]
    split <;> rfl
  | bound lease => simp [onTimerCalls, h, onTimerRenewing]
  | renewing lease => simp [onTimerCalls, h]
  | waitToRebind lease =>
    rw [onTimerCalls, h]
    exact hrebind _ _ rfl
  | rebind lease =>
    simp only [onTimerCalls, h, onTimerRebind]
    split <;> rfl

theorem oneTimer_send (msg : DhcpV4Message) (dest : Ipv4Addr) (wait : Nat) :
    OneTimer [.send msg dest, .scheduleTimer wait] := ⟨rfl,le_rfl⟩

theorem onTimerDiscovering_oneTimer (xid : UInt32) {requested : Option Ipv4Addr} :
    OneTimer (onTimerDiscovering env f xid requested).2 := by
  unfold onTimerDiscovering
  split
  · exact ⟨rfl,Nat.zero_le 1⟩
  · exact oneTimer_send _ _ _

theorem onTimerRenewing_oneTimer : OneTimer (onTimerRenewing env f lease).2 := by
  unfold onTimerRenewing
  by_cases hearly : env.now ≥ rebindEarlyAt env.now lease
  · simp only [if_pos hearly, oneTimer_send]
  · simp only [if_neg hearly, oneTimer_send]

/- The release of an expired lease is neither a message nor a timer. -/
theorem onTimerRebind_oneTimer : OneTimer (onTimerRebind env f lease).2 := by
  unfold onTimerRebind
  split
  · exact onTimerDiscovering_oneTimer _
  · exact oneTimer_send _ _ _

theorem onTimer_oneTimer : OneTimer (onTimer env f).2 := by
  unfold onTimer
  cases f.state with
  | discovering xid requested => exact onTimerDiscovering_oneTimer xid
  | requesting xid offer =>
    simp only [onTimerRequesting]
    split
    · exact onTimerDiscovering_oneTimer _
    · exact oneTimer_send _ _ _
  | bound lease | renewing lease => exact onTimerRenewing_oneTimer
  | waitToRebind lease | rebind lease => exact onTimerRebind_oneTimer

theorem onRecv_countP (msg : DhcpV4Message) : (onRecv env f msg).2.countP isTimer ≤ 1 := by
  obtain heq | ⟨_,_,_,-,heq⟩ | ⟨-,heq⟩ | ⟨-,heq⟩ := onRecv_cases env f msg <;> rw [heq]
  · simp
  · simp [isTimer]
  · unfold handleAck
    split
    · simp
    · split <;> simp [isTimer]
  · unfold handleNak
    split <;> simp [isTimer]

theorem driverStep_pending (h : s.2 = true) (e : Env × FsmEvent) : (driverStep s e).2 = true := by
  obtain ⟨env,event⟩ := e
  cases event with
  | timerFired =>
    have hpos : 0 < (onTimer env s.1).2.countP isTimer := by
      rw [onTimer_oneTimer.1]
      exact Nat.one_pos
    simpa [driverStep, onEvent, FsmEvent.isTimer] using List.countP_pos_iff.mp hpos
  | recv msg => simp [driverStep, h, FsmEvent.isTimer]

theorem foldl_pending (h : s.2 = true) (events : List (Env × FsmEvent)) :
    (events.foldl driverStep s).2 = true := by
  induction events generalizing s with
  | nil => exact h
  | cons e events ih => exact ih (driverStep_pending h e)

/-- A timer that runs out sets exactly one anew and sends at most one message, within three nested
calls; a message sets at most one. So one is pending after any events. -/
theorem timer_pending (env : Env) (f : DhcpV4Fsm) (macAddr : Route.MacAddr) (hostname : String)
    (events : List (Env × FsmEvent)) :
    onTimerCalls env 3 f = some (onTimer env f) ∧ OneTimer (onTimer env f).2 ∧
      (∀ msg, (onRecv env f msg).2.countP isTimer ≤ 1) ∧
      (events.foldl driverStep (.new env macAddr hostname, true)).2 = true :=
  ⟨onTimerCalls_eq,onTimer_oneTimer,onRecv_countP,foldl_pending rfl events⟩

/-! The times of a lease in 64 bits, where `none` is a panic. -/

def u64 (n : Nat) : Option Nat := if n < 2 ^ 64 then some n else none

def checkedSub (a b : Nat) : Option Nat := if b ≤ a then some (a - b) else none

def clamp (x lo hi : Nat) : Option Nat := if lo ≤ hi then some (min (max x lo) hi) else none

def explicitRenew (options : DhcpV4Options) : Option Nat :=
  match options.lookup 58 with
  | some (.renewal t) => if t > 0 then some t.toNat else none
  | _ => none

def explicitRebind (options : DhcpV4Options) : Option Nat :=
  match options.lookup 59 with
  | some (.rebinding t) => if t > 0 then some t.toNat else none
  | _ => none

def renewTimes (t : UInt32) (options : DhcpV4Options) : Option (Nat × Nat × Nat) := do
  let lease := max t.toNat 2
  let defaultRenew := lease / 2
  let defaultRebind := max ((← u64 (lease * 7)) / 8) (← u64 (defaultRenew + 1))
  let renewTime ← clamp ((explicitRenew options).getD defaultRenew) 1 (← checkedSub lease 1)
  let rebindTime ← clamp ((explicitRebind options).getD defaultRebind) (← u64 (renewTime + 1)) lease
  return (renewTime, rebindTime, lease)

variable {options : DhcpV4Options} {t : UInt32}

theorem u64_of_lt {n : Nat} (h : n < 2 ^ 64) : u64 n = some n := if_pos h

theorem checkedSub_of_le {a b : Nat} (h : b ≤ a) : checkedSub a b = some (a - b) := if_pos h

theorem clamp_of_le {x lo hi : Nat} (h : lo ≤ hi) : clamp x lo hi = some (min (max x lo) hi) :=
  if_pos h

theorem getRenewTimes_eq (ht : options.lookup 51 = some (.addressLeaseTime t)) :
    getRenewTimes options = renewTimes t options := by
  have hlease : 2 ≤ max t.toNat 2 ∧ max t.toNat 2 < 2 ^ 32 := by have := t.toNat_lt; omega
  simp only [getRenewTimes, renewTimes, ht]
  generalize max t.toNat 2 = lease at hlease ⊢
  simp (disch := omega) only [u64_of_lt, checkedSub_of_le, clamp_of_le,
    Option.bind_eq_bind, Option.bind_some]
  rfl

/-- The times of every lease are computed without a panic and are in order, and times that are in
order are taken as they are. -/
theorem lease_times_ordered (ht : options.lookup 51 = some (.addressLeaseTime t)) :
    ∃ renew rebind, renewTimes t options = some (renew, rebind, max t.toNat 2) ∧
      getRenewTimes options = renewTimes t options ∧
      1 ≤ renew ∧ renew < rebind ∧ rebind ≤ max t.toNat 2 ∧
      ∀ t₁ t₂, options.lookup 58 = some (.renewal t₁) → options.lookup 59 = some (.rebinding t₂) →
        1 ≤ t₁.toNat → t₁.toNat < t₂.toNat → t₂.toNat ≤ max t.toNat 2 →
        t₁.toNat ≤ max t.toNat 2 - 1 → renew = t₁.toNat ∧ rebind = t₂.toNat := by
  rw [← getRenewTimes_eq ht]
  simp only [getRenewTimes, ht]
  refine ⟨_,_,rfl,trivial,by omega,by omega,by omega,?_⟩
  intro t₁ t₂ h₁ h₂ hpos hlt hle hle'
  have hz₁ : t₁ > 0 := UInt32.lt_iff_toNat_lt.mpr hpos
  have hz₂ : t₂ > 0 := UInt32.lt_iff_toNat_lt.mpr (Nat.lt_trans hpos hlt)
  simp only [h₁, h₂, if_pos hz₁, if_pos hz₂, Option.getD_some]
  omega

/-- A lease of an hour without the other times. -/
theorem lease_times_sample : ∃ renew rebind,
    renewTimes 3600 (insertOption ∅ (.addressLeaseTime 3600)) =
    some (renew, rebind, 3600) ∧ renew < rebind := by
  obtain ⟨renew,rebind,h,-,-,hlt,-⟩ :=
    @lease_times_ordered (insertOption ∅ (.addressLeaseTime 3600)) 3600 (AList.lookup_insert _)
  exact ⟨renew,rebind,h,hlt⟩

end Landscape.Dhcp4.Client
