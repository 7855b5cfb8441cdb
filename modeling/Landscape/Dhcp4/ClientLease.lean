import Landscape.Dhcp4.Client

/-! The state of the client against the lease actions it has emitted. -/
namespace Landscape.Dhcp4.Client
open Run Dhcp4

structure Session where
  fsm : DhcpV4Fsm
  emitted : List FsmAction

def sessionStep (s : Session) (e : Env × FsmEvent) : Option Session :=
  let r := onEvent e.1 s.fsm e.2
  some ⟨r.1,s.emitted ++ r.2⟩

def startSession (env : Env) (macAddr : Route.MacAddr) (hostname : String) : Session :=
  ⟨.new env macAddr hostname,[]⟩

def applyAction (last : Option LeaseParams) : FsmAction → Option LeaseParams
  | .bindLease params => some params
  | .releaseLease => none
  | _ => last

def lastLease (emitted : List FsmAction) : Option LeaseParams := emitted.foldl applyAction none

/-- A lease is held exactly if the last lease action binds one, and it is the one that is bound. -/
def Agrees (s : Session) : Prop :=
  (s.fsm.leasedIp.isSome = true ↔ (lastLease s.emitted).isSome = true) ∧
    ∀ params, lastLease s.emitted = some params →
      s.fsm.leasedIp = some params.yiaddr ∧ params.yiaddr ≠ 0

def Keeps (last : Option LeaseParams) : DhcpState → Prop
  | .discovering _ _ | .requesting _ _ => last = none
  | .bound lease => ∃ params, last = some params ∧ params.yiaddr ≠ 0 ∧ lease.yiaddr = params.yiaddr
  | .renewing lease | .waitToRebind lease | .rebind lease =>
    ∃ params, last = some params ∧ params.yiaddr ≠ 0 ∧ lease.yiaddr = 0 ∧
      lease.ciaddr = params.yiaddr

variable {s : Session}

theorem Keeps.agrees (h : Keeps (lastLease s.emitted) s.fsm.state) : Agrees s := by
  unfold Agrees DhcpV4Fsm.leasedIp
  cases hstate : s.fsm.state with
  | discovering xid requested | requesting xid offer =>
    rw [hstate] at h
    have hlast : lastLease s.emitted = none := h
    simp [hlast]
  | bound lease =>
    rw [hstate] at h
    obtain ⟨params,hlast,hne,hyi⟩ := h
    have hip : leaseIp lease = params.yiaddr := by rw [leaseIp, hyi, if_neg hne]
    simp [hlast, hip, hne]
  | renewing lease | waitToRebind lease | rebind lease =>
    rw [hstate] at h
    obtain ⟨params,hlast,hne,hyi,hci⟩ := h
    have hip : leaseIp lease = params.yiaddr := by rw [leaseIp, if_pos hyi, hci]
    simp [hlast, hip, hne]

/-! One event. `last` is what was emitted before it. -/

variable {env : Env} {f : DhcpV4Fsm} {last : Option LeaseParams} {lease : LeaseContext}
  {msg : DhcpV4Message}

theorem onTimerDiscovering_keeps (xid : UInt32) (requested : Option Ipv4Addr) :
    Keeps ((onTimerDiscovering env f xid requested).2.foldl applyAction none)
      (onTimerDiscovering env f xid requested).1.state := by
  unfold onTimerDiscovering
  split <;> rfl

theorem onTimerRequesting_keeps (xid : UInt32) (offer : OfferContext) :
    Keeps ((onTimerRequesting env f xid offer).2.foldl applyAction none)
      (onTimerRequesting env f xid offer).1.state := by
  unfold onTimerRequesting
  split
  · exact onTimerDiscovering_keeps _ _
  · rfl

theorem onTimerRenewing_keeps (h : Keeps last (.renewing lease)) :
    Keeps ((onTimerRenewing env f lease).2.foldl applyAction last)
      (onTimerRenewing env f lease).1.state := by
  obtain ⟨params,hlast,hne,hyi,hci⟩ := h
  unfold onTimerRenewing
  by_cases hearly : env.now ≥ rebindEarlyAt env.now lease
  · simp only [if_pos hearly, List.foldl_cons, List.foldl_nil, applyAction]
    exact ⟨params,hlast,hne,hyi,hci⟩
  · simp only [if_neg hearly, List.foldl_cons, List.foldl_nil, applyAction]
    exact ⟨params,hlast,hne,hyi,hci⟩

/- An expired lease is released, so nothing is held when the search starts again. -/
theorem onTimerRebind_keeps (h : Keeps last (.rebind lease)) :
    Keeps ((onTimerRebind env f lease).2.foldl applyAction last)
      (onTimerRebind env f lease).1.state := by
  unfold onTimerRebind
  split
  · exact onTimerDiscovering_keeps _ _
  · exact h

theorem onTimer_keeps (h : Keeps last f.state) :
    Keeps ((onTimer env f).2.foldl applyAction last) (onTimer env f).1.state := by
  unfold onTimer
  cases hstate : f.state with
  | discovering xid requested =>
    rw [hstate] at h
    obtain rfl : last = none := h
    exact onTimerDiscovering_keeps _ _
  | requesting xid offer =>
    rw [hstate] at h
    obtain rfl : last = none := h
    exact onTimerRequesting_keeps _ _
  | bound lease =>
    rw [hstate] at h
    obtain ⟨params,hlast,hne,hyi⟩ := h
    exact onTimerRenewing_keeps ⟨params,hlast,hne,rfl,hyi⟩
  | renewing lease => exact onTimerRenewing_keeps (hstate ▸ h)
  | waitToRebind lease =>
    rw [hstate] at h
    obtain ⟨params,hlast,hne,-,hci⟩ := h
    exact onTimerRebind_keeps ⟨params,hlast,hne,rfl,hci⟩
  | rebind lease => exact onTimerRebind_keeps (hstate ▸ h)

def AcksAddress : FsmEvent → Prop
  | .recv msg => msg.msgType = some .ack → msg.yiaddr ≠ 0
  | .timerFired => True

instance (e : FsmEvent) : Decidable (AcksAddress e) := by
  cases e <;> unfold AcksAddress <;> infer_instance

theorem handleAck_keeps (h : Keeps last f.state) (hne : msg.yiaddr ≠ 0) :
    Keeps ((handleAck env f msg).2.foldl applyAction last) (handleAck env f msg).1.state := by
  unfold handleAck
  split
  · exact h
  · split
    · exact ⟨_,rfl,hne,rfl⟩
    · exact h

theorem handleNak_keeps (h : Keeps last f.state) (hb : ∀ lease, f.state ≠ .bound lease) :
    Keeps ((handleNak env f).2.foldl applyAction last) (handleNak env f).1.state := by
  unfold handleNak
  cases hstate : f.state with
  | discovering xid requested | requesting xid offer =>
    rw [hstate] at h
    exact h
  | bound lease => exact absurd hstate (hb lease)
  | renewing lease => rfl
  | waitToRebind lease => rfl
  | rebind lease => rfl

theorem onRecv_keeps (h : Keeps last f.state) (hack : msg.msgType = some .ack → msg.yiaddr ≠ 0) :
    Keeps ((onRecv env f msg).2.foldl applyAction last) (onRecv env f msg).1.state := by
  obtain heq | ⟨xid,requested,offer,hstate,heq⟩ | ⟨ht,heq⟩ | ⟨hb,heq⟩ := onRecv_cases env f msg <;>
    rw [heq]
  · exact h
  · -- an offer is taken while searching, when nothing is held
    rw [hstate] at h
    exact h
  · exact handleAck_keeps h (hack ht)
  · exact handleNak_keeps h hb

theorem sessionStep_keeps {s' : Session} {e : Env × FsmEvent}
    (h : Keeps (lastLease s.emitted) s.fsm.state) (he : AcksAddress e.2)
    (hs : sessionStep s e = some s') : Keeps (lastLease s'.emitted) s'.fsm.state := by
  obtain ⟨env,event⟩ := e
  cases hs
  rw [lastLease, List.foldl_append]
  cases event with
  | timerFired => exact onTimer_keeps h
  | recv msg => exact onRecv_keeps h he

/-- After any events in which every ACK carries an address, state and actions agree. -/
theorem agrees_of_acksAddress {env : Env} {macAddr : Route.MacAddr} {hostname : String}
    {s : Session} (hrun : Runs sessionStep (fun _ e => AcksAddress e.2)
      (startSession env macAddr hostname) s) :
    Agrees s :=
  Keeps.agrees (hrun.invariant (fun s : Session => Keeps (lastLease s.emitted) s.fsm.state)
    (fun _ _ _ h he hs => sessionStep_keeps h he hs) rfl)

/-! Sample messages of a server. -/

private def reply (t : MessageType) (xid : UInt32) (ciaddr yiaddr : Ipv4Addr) : DhcpV4Message where
  opcode := .bootReply
  xid := xid
  broadcast := false
  ciaddr := ciaddr
  yiaddr := yiaddr
  siaddr := 0
  chaddr := 1
  opts := insertOption (insertOption (insertOption ∅ (.messageType t)) (.addressLeaseTime 3600))
    (.subnetMask 0xffffff00)

private def sampleEnv (now : Nat) (xid : UInt32) : Env := ⟨secs now,xid,0⟩

private def sampleLease : List (Env × FsmEvent) :=
  [(sampleEnv 0 7, .timerFired), (sampleEnv 1 8, .recv (reply .offer 7 0 0x0a000005)),
    (sampleEnv 1 8, .timerFired), (sampleEnv 2 9, .recv (reply .ack 7 0 0x0a000005)),
    (sampleEnv 1802 10, .timerFired)]

theorem agrees_sample : ∃ s, Runs sessionStep (fun _ e => AcksAddress e.2)
    (startSession (sampleEnv 0 7) 1 "host") s ∧ s.fsm.leasedIp = some 0x0a000005 ∧ Agrees s := by
  refine runs_and (runs_of_decide _ _
    (sampleLease ++ [(sampleEnv 1803 11, .recv (reply .ack 10 0x0a000005 0x0a000005))]) _ _
      (by decide +kernel)) ?_
  exact fun _ hrun _ => agrees_of_acksAddress hrun

def AlwaysAgrees : Prop :=
  ∀ env macAddr hostname s, Runs sessionStep (fun _ _ => True)
    (startSession env macAddr hostname) s →
    Agrees s

/-- A renewal is acknowledged without an address: the address 0.0.0.0 is bound. -/
theorem agrees_fails : ¬AlwaysAgrees := by
  intro halways
  obtain ⟨s,hrun,params,hlast,hyi⟩ :=
    runs_of_steps sessionStep (startSession (sampleEnv 0 7) 1 "host")
    (sampleLease ++ [(sampleEnv 1803 11, .recv (reply .ack 10 0x0a000005 0))])
    (fun s => ∃ params ∈ lastLease s.emitted, params.yiaddr = 0) (by decide +kernel)
  exact ((halways _ _ _ s hrun).2 params hlast).2 hyi

end Landscape.Dhcp4.Client
