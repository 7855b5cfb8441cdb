import Landscape.Dhcp4.Client
import Landscape.Lib.Timed

/-! The timer of the client against the end of its lease. -/
namespace Landscape.Dhcp4.Client
open Run Timed Dhcp4

structure Drawn where
  xid : UInt32
  random : UInt8
  event : FsmEvent

/- The driver sets its timer with every `ScheduleTimer`, so the last one counts. -/
def scheduled (actions : List FsmAction) : Option Nat :=
  actions.foldl (fun last a =>
    match a with
    | .scheduleTimer wait => some wait
    | _ => last) none

def FsmEvent.isTimer : FsmEvent → Bool
  | .timerFired => true
  | .recv _ => false

def driver : Driven DhcpV4Fsm Drawn where
  fires e := e.event.isTimer
  handle now f e :=
    let r := onEvent ⟨now,e.xid,e.random⟩ f e.event
    (r.1, scheduled r.2)

def startClient (env : Env) (macAddr : Route.MacAddr) (hostname : String) : Clocked DhcpV4Fsm :=
  ⟨env.now,env.now,.new env macAddr hostname⟩

def heldLease : DhcpState → Option LeaseContext
  | .bound lease | .renewing lease | .waitToRebind lease | .rebind lease => some lease
  | .discovering _ _ | .requesting _ _ => none

def InTime (c : Clocked DhcpV4Fsm) : Prop :=
  ∀ lease, heldLease c.state.state = some lease → c.deadline ≤ lease.leaseAt

/-- A timer that runs out while a lease is held leaves the minute that the machine waits at least,
unless renewing turns into waiting for the rebinding time. -/
def LeavesAMinute (c : Clocked DhcpV4Fsm) : Moment Drawn → Prop
  | .event ⟨_,_,.timerFired⟩ =>
    match c.state.state with
    | .bound lease | .renewing lease =>
      rebindEarlyAt c.now lease ≤ c.now ∨ c.now + secs 60 ≤ lease.leaseAt
    | .waitToRebind lease | .rebind lease => c.now + secs 60 ≤ lease.leaseAt
    | .discovering _ _ | .requesting _ _ => True
  | _ => True

structure Sound (c : Clocked DhcpV4Fsm) : Prop where
  inTime : InTime c
  rebind : ∀ lease, heldLease c.state.state = some lease → lease.rebindAt ≤ lease.leaseAt
  due : c.now ≤ c.deadline

theorem getRenewTimes_le {options : DhcpV4Options} {renewTime rebindTime leaseTime : Nat}
    (h : getRenewTimes options = some (renewTime, rebindTime, leaseTime)) :
    renewTime ≤ leaseTime ∧ rebindTime ≤ leaseTime := by
  unfold getRenewTimes at h
  split at h
  · cases h
    omega
  · cases h

theorem secs_mono {a b : Nat} (h : a ≤ b) : secs a ≤ secs b := by
  unfold secs
  omega

variable {env : Env} {f : DhcpV4Fsm} {lease : LeaseContext}

theorem onTimerDiscovering_held (xid : UInt32) (requested : Option Ipv4Addr) :
    heldLease (onTimerDiscovering env f xid requested).1.state = none := by
  unfold onTimerDiscovering
  split <;> rfl

theorem onTimerRequesting_held (xid : UInt32) (offer : OfferContext) :
    heldLease (onTimerRequesting env f xid offer).1.state = none := by
  unfold onTimerRequesting
  split
  · exact onTimerDiscovering_held _ _
  · rfl

/- Renewing keeps the lease; the next timer is within the lease unless the minute is too long. -/
theorem onTimerRenewing_held (hrebind : lease.rebindAt ≤ lease.leaseAt)
    (hnow : env.now ≤ lease.leaseAt) :
    heldLease (onTimerRenewing env f lease).1.state = some lease ∧
      ∃ wait, scheduled (onTimerRenewing env f lease).2 = some wait ∧
        (env.now + wait ≤ lease.leaseAt ↔
          rebindEarlyAt env.now lease ≤ env.now ∨ env.now + secs 60 ≤ lease.leaseAt) := by
  unfold onTimerRenewing
  by_cases hearly : env.now ≥ rebindEarlyAt env.now lease
  · simp only [if_pos hearly]
    refine ⟨rfl,_,rfl,?_⟩
    have hwait : env.now + (lease.rebindAt - env.now) ≤ lease.leaseAt := by omega
    exact iff_of_true hwait (.inl hearly)
  · simp only [if_neg hearly]
    refine ⟨rfl,_,rfl,?_⟩
    omega

theorem onTimerRebind_held (hnow : env.now ≤ lease.leaseAt) :
    heldLease (onTimerRebind env f lease).1.state = some lease ∧
      ∃ wait, scheduled (onTimerRebind env f lease).2 = some wait ∧
        (env.now + wait ≤ lease.leaseAt ↔ env.now + secs 60 ≤ lease.leaseAt) := by
  unfold onTimerRebind
  have hlive : ¬env.now > lease.leaseAt := by omega
  simp only [if_neg hlive]
  refine ⟨rfl,_,rfl,?_⟩
  omega

/- A message changes nothing, leaves no lease, or brings a new one with times in order. -/
theorem onRecv_held (env : Env) (f : DhcpV4Fsm) (msg : DhcpV4Message) :
    onRecv env f msg = (f, []) ∨ heldLease (onRecv env f msg).1.state = none ∨
      ∃ lease wait, heldLease (onRecv env f msg).1.state = some lease ∧
        scheduled (onRecv env f msg).2 = some wait ∧ env.now + wait ≤ lease.leaseAt ∧
        lease.rebindAt ≤ lease.leaseAt := by
  obtain heq | ⟨_,_,_,-,heq⟩ | ⟨-,heq⟩ | ⟨-,heq⟩ := onRecv_cases env f msg <;> rw [heq]
  · exact .inl rfl
  · exact .inr (.inl rfl)
  · unfold handleAck
    split
    · exact .inl rfl
    split
    · rename_i renewTime rebindingTime leaseTime mask htimes hmask
      obtain ⟨hrenew,hrebind⟩ := getRenewTimes_le htimes
      have hrenew := secs_mono hrenew
      have hrebind := secs_mono hrebind
      refine .inr (.inr ⟨_,_,rfl,rfl,?_,?_⟩)
      · exact Nat.add_le_add_left hrenew _
      · exact Nat.add_le_add_left hrebind _
    · exact .inl rfl
  · exact .inr (.inl rfl)

variable {c c' : Clocked DhcpV4Fsm} {fsm : DhcpV4Fsm} {now deadline : Nat}

/- What a handler leaves behind when it sets the timer. -/
theorem inTime_of_held (hheld : heldLease fsm.state = some lease) :
    InTime ⟨now,deadline,fsm⟩ ↔ deadline ≤ lease.leaseAt := by
  constructor
  · intro h
    exact h lease hheld
  · intro hle lease' hlease'
    cases hheld.symm.trans hlease'
    exact hle

theorem sound_of_held (hheld : heldLease fsm.state = some lease)
    (hle : deadline ≤ lease.leaseAt) (hrebind : lease.rebindAt ≤ lease.leaseAt)
    (hdue : now ≤ deadline) :
    Sound ⟨now,deadline,fsm⟩ := by
  refine ⟨(inTime_of_held hheld).mpr hle,?_,hdue⟩
  intro lease' hlease'
  cases hheld.symm.trans hlease'
  exact hrebind

theorem sound_of_none (hheld : heldLease fsm.state = none)
    (hdue : now ≤ deadline) : Sound ⟨now,deadline,fsm⟩ := by
  refine ⟨?_,?_,hdue⟩ <;>
  · intro lease hlease
    cases hheld.symm.trans hlease

theorem Sound.recv (h : Sound c) {xid : UInt32} {random : UInt8} {msg : DhcpV4Message}
    (hs : driver.step c (.event ⟨xid,random,.recv msg⟩) = some c') : Sound c' := by
  have hdue := step_now_le h.due hs
  obtain ⟨-,rfl⟩ := step_event hs
  obtain hsame | hnone | ⟨lease,wait,hheld,hwait,hle,hrebind⟩ :=
    onRecv_held ⟨c.now,xid,random⟩ c.state msg
  · simp only [driver, onEvent, hsame, scheduled, List.foldl_nil, Option.elim_none]
    exact h
  · exact sound_of_none hnone hdue
  · simp only [driver, onEvent, hwait, Option.elim_some] at hdue ⊢
    exact sound_of_held hheld hle hrebind hdue

section
variable (c) (xid : UInt32) (random : UInt8)

theorem onTimer_none (hl : heldLease c.state.state = none) :
    heldLease (onTimer ⟨c.now,xid,random⟩ c.state).1.state = none ∧
      LeavesAMinute c (.event ⟨xid,random,.timerFired⟩) := by
  simp only [LeavesAMinute, onTimer]
  cases hstate : c.state.state with
  | discovering => exact ⟨onTimerDiscovering_held _ _,trivial⟩
  | requesting => exact ⟨onTimerRequesting_held _ _,trivial⟩
  | bound | renewing | waitToRebind | rebind =>
    rw [hstate] at hl
    cases hl

/- A timer that runs out while a lease is held: the lease stays, and the next timer is in time if a
   minute is left. -/
theorem onTimer_held (hl : heldLease c.state.state = some lease)
    (hrebind : lease.rebindAt ≤ lease.leaseAt) (hnow : c.now ≤ lease.leaseAt) :
    ∃ lease', heldLease (onTimer ⟨c.now,xid,random⟩ c.state).1.state = some lease' ∧
      lease'.rebindAt ≤ lease'.leaseAt ∧
      ∃ wait, scheduled (onTimer ⟨c.now,xid,random⟩ c.state).2 = some wait ∧
        (c.now + wait ≤ lease'.leaseAt ↔ LeavesAMinute c (.event ⟨xid,random,.timerFired⟩)) := by
  simp only [LeavesAMinute, onTimer]
  cases hstate : c.state.state with
  | discovering | requesting =>
    rw [hstate] at hl
    cases hl
  | bound held | renewing held =>
    obtain rfl := Option.some.inj ((congrArg heldLease hstate).symm.trans hl)
    refine ⟨_,(onTimerRenewing_held ?_ ?_).1,hrebind,(onTimerRenewing_held ?_ ?_).2⟩ <;> assumption
  | waitToRebind held | rebind held =>
    obtain rfl := Option.some.inj ((congrArg heldLease hstate).symm.trans hl)
    exact ⟨_,(onTimerRebind_held hnow).1,hrebind,(onTimerRebind_held hnow).2⟩

end

theorem Sound.step (h : Sound c) {m : Moment Drawn} (hs : driver.step c m = some c') :
    (InTime c' ↔ LeavesAMinute c m) ∧ (LeavesAMinute c m → Sound c') := by
  have hquiet : Sound c' → LeavesAMinute c m →
      (InTime c' ↔ LeavesAMinute c m) ∧ (LeavesAMinute c m → Sound c') :=
    fun h' hl => ⟨iff_of_true h'.inTime hl,fun _ => h'⟩
  cases m with
  | pass d =>
    obtain ⟨hle,rfl⟩ := step_pass hs
    exact hquiet ⟨h.inTime,h.rebind,hle⟩ trivial
  | event e =>
    obtain ⟨xid,random,event⟩ := e
    cases event with
    | recv msg => exact hquiet (h.recv hs) trivial
    | timerFired =>
      have hdue := step_now_le h.due hs
      obtain ⟨-,rfl⟩ := step_event hs
      cases hl : heldLease c.state.state with
      | none =>
        obtain ⟨hnone,hminute⟩ := onTimer_none c xid random hl
        exact hquiet (sound_of_none hnone hdue) hminute
      | some lease =>
        have hend : c.now ≤ lease.leaseAt := Nat.le_trans h.due (h.inTime lease hl)
        obtain ⟨lease',hheld,hrebind,wait,hwait,hiff⟩ :=
          onTimer_held c xid random hl (h.rebind lease hl) hend
        simp only [driver, onEvent, hwait, Option.elim_some] at hdue ⊢
        refine ⟨(inTime_of_held hheld).trans hiff,fun hminute => ?_⟩
        exact sound_of_held hheld (hiff.mpr hminute) hrebind hdue

/-- As long as every timer that runs out under a lease leaves a minute, the next one is in time; and
it is in time only then. -/
theorem inTime_of_leavesAMinute {env : Env} {macAddr : Route.MacAddr} {hostname : String}
    {c : Clocked DhcpV4Fsm} (hrun : Runs driver.step LeavesAMinute
      (startClient env macAddr hostname) c) :
    InTime c ∧ ∀ m c', driver.step c m = some c' → (InTime c' ↔ LeavesAMinute c m) := by
  have hsound : Sound c :=
    hrun.invariant Sound (fun _ _ _ h hm hs => (h.step hs).2 hm) (sound_of_none rfl (Nat.le_refl _))
  exact ⟨hsound.inTime,fun m c' hs => (hsound.step hs).1⟩

private def grant (t : MessageType) (leaseTime : UInt32) : DhcpV4Message where
  opcode := .bootReply
  xid := 7
  broadcast := false
  ciaddr := 0
  yiaddr := 0x0a000005
  siaddr := 0
  chaddr := 1
  opts :=
    insertOption (insertOption (insertOption ∅ (.messageType t)) (.addressLeaseTime leaseTime))
    (.subnetMask 0xffffff00)

private def drawn (event : FsmEvent) : Moment Drawn := .event ⟨7,0,event⟩

private def leaseRun (leaseTime : UInt32) (renewal : Nat) : List (Moment Drawn) :=
  [drawn .timerFired, drawn (.recv (grant .offer leaseTime)), drawn .timerFired,
    drawn (.recv (grant .ack leaseTime)), .pass (secs renewal), drawn .timerFired]

instance (c : Clocked DhcpV4Fsm) (m : Moment Drawn) : Decidable (LeavesAMinute c m) := by
  unfold LeavesAMinute
  split
  · split <;> infer_instance
  · infer_instance

private def holdsWithTimer (wait : Nat) (c : Clocked DhcpV4Fsm) : Bool :=
  (heldLease c.state.state).isSome && c.deadline == secs wait

theorem inTime_sample : ∃ c, Runs driver.step LeavesAMinute (startClient ⟨0,7,0⟩ 1 "host") c ∧
    (heldLease c.state.state).isSome = true ∧ InTime c := by
  obtain ⟨c,hrun,hheld⟩ :=
    runs_of_decide driver.step (startClient ⟨0,7,0⟩ 1 "host") (leaseRun 3600 1800)
    (holdsWithTimer 2475 · = true) LeavesAMinute (by decide +kernel)
  simp only [holdsWithTimer, Bool.and_eq_true] at hheld
  exact ⟨c,hrun,hheld.1,(inTime_of_leavesAMinute hrun).1⟩

def AlwaysInTime : Prop :=
  ∀ env macAddr hostname c, Runs driver.step (fun _ _ => True)
    (startClient env macAddr hostname) c →
    InTime c

/-- A lease of two seconds: the renewal waits for a minute. -/
theorem inTime_fails : ¬AlwaysInTime := by
  intro halways
  obtain ⟨c,hrun,lease,hlease,hlt⟩ :=
    runs_of_steps driver.step (startClient ⟨0,7,0⟩ 1 "host") (leaseRun 2 1)
    (fun c => ∃ lease ∈ heldLease c.state.state, lease.leaseAt < c.deadline) (by decide +kernel)
  have hle := halways _ _ _ c hrun lease hlease
  omega

end Landscape.Dhcp4.Client
