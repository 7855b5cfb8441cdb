import Landscape.Dhcp6.PdClient

/-! What one turn of the client's loop can do. -/
namespace Landscape.Dhcp6.PdClient
open Timed

def acceptedReply (cfg : Config) (status : IpV6PdState) (d : Datagram) : Option (IAPD × IAPrefix) :=
  match d.source, d.message, status.serviceId? with
  | some _, some msg, some serviceId =>
    if msg.xid = status.getXid ∧ ¬msg.clientId.any (· ≠ cfg.clientId) ∧
        status.canHandleMessage msg.msgType ∧ ¬msg.serverId.any (· ≠ serviceId) then
      msg.iapd.bind fun iapd => iapd.usable.map (iapd, ·)
    else none
  | _, _, _ => none

def Datagram.garbled (d : Datagram) : Bool := d.source.isNone || d.message.isNone

section
variable (cfg : Config) (now : Nat) (newXid : UInt32)

inductive Handled (d : Datagram) (c : Client) : Client × Bool → Prop
  | garbled : d.garbled = true → acceptedReply cfg c.status d = none → Handled d c (c, true)
  | refused : d.garbled = false → acceptedReply cfg c.status d = none → Handled d c (c, false)
  | advertise (xid : UInt32) (serviceId : Duid) (iapd : IAPD) (serverUnicast : Option Ipv6Addr) :
    c.status = .solicit xid → acceptedReply cfg c.status d = none →
    Handled d c ({ c with status := .request newXid serviceId iapd serverUnicast 0 }, true)
  | reply (source : Ipv6Addr) (held : Held) (p : IAPrefix) :
    acceptedReply cfg c.status d = some (held.iapd, p) → held.iapd.usable = some p →
      held.boundTime = now →
    Handled d c (acceptReply cfg now newXid source held p c, true)

variable {c : Client} {held : Held}

theorem handled_reply {source : Ipv6Addr} {msg : Message} {serviceId : Duid}
    (hsid : c.status.serviceId? = some serviceId) (hxid : msg.xid = c.status.getXid)
    (hclient : ¬msg.clientId.any (· ≠ cfg.clientId))
    (hcan : c.status.canHandleMessage msg.msgType) :
    Handled cfg now newXid ⟨some source,some msg⟩ c
    (handleReply cfg now newXid source msg serviceId c) := by
  have hacc : acceptedReply cfg c.status ⟨some source,some msg⟩ =
      if ¬msg.serverId.any (· ≠ serviceId) then msg.iapd.bind fun iapd => iapd.usable.map (iapd, ·)
      else none := by
    simp only [acceptedReply, hsid]
    exact if_congr ⟨fun h => h.2.2.2,fun h => ⟨hxid,hclient,hcan,h⟩⟩ rfl rfl
  rw [handleReply]
  split
  · rename_i hserver
    exact .refused rfl (hacc.trans (if_neg fun h => h hserver))
  · rename_i hserver
    rw [if_pos hserver] at hacc
    split
    · rename_i hiapd
      exact .refused rfl (hacc.trans (by rw [hiapd]; rfl))
    · rename_i iapd hiapd
      rw [hiapd, Option.bind_some] at hacc
      split
      · rename_i husable
        exact .refused rfl (hacc.trans (by rw [husable]; rfl))
      · rename_i p husable
        rw [husable] at hacc
        exact .reply source _ p hacc husable rfl

theorem handled_advertise {source : Ipv6Addr} {msg : Message} (hsid : c.status.serviceId? = none)
    (hcan : c.status.canHandleMessage msg.msgType) :
    Handled cfg now newXid ⟨some source,some msg⟩ c (handleAdvertise newXid msg c) := by
  have hacc : acceptedReply cfg c.status ⟨some source,some msg⟩ = none := by
    simp only [acceptedReply, hsid]
  rw [handleAdvertise]
  split
  · cases hstatus : c.status with
    | solicit xid => exact .advertise xid _ _ _ hstatus hacc
    | bound xid held =>
      rw [hstatus] at hcan
      cases hcan
    | request _ _ _ _ _ | renew _ _ _ | waitToRebind _ _ | rebind _ _ _ =>
      rw [hstatus] at hsid
      cases hsid
  · exact .refused rfl hacc

theorem handled (d : Datagram) (c : Client) :
    Handled cfg now newXid d c (handlePacket cfg now newXid d c) := by
  obtain ⟨source,message⟩ := d
  cases source with
  | none => exact .garbled rfl rfl
  | some source =>
    cases message with
    | none => exact .garbled rfl rfl
    | some msg =>
      -- A message that fails one of the first three checks is no reply for this state.
      have hfail : ¬(msg.xid = c.status.getXid ∧ ¬msg.clientId.any (· ≠ cfg.clientId) ∧
          c.status.canHandleMessage msg.msgType) →
          acceptedReply cfg c.status ⟨some source,some msg⟩ = none := by
        intro hnot
        rw [acceptedReply]
        cases c.status.serviceId? with
        | none => rfl
        | some serviceId => exact if_neg fun h => hnot ⟨h.1,h.2.1,h.2.2.1⟩
      dsimp only [handlePacket]
      split
      · rename_i hxid
        exact .refused rfl (hfail fun h => hxid h.1)
      · rename_i hxid
        split
        · rename_i hclient
          exact .refused rfl (hfail fun h => h.2.1 hclient)
        · rename_i hclient
          split
          · rename_i hcan
            exact .refused rfl (hfail fun h => hcan h.2.2)
          · rename_i hcan
            split
            · rename_i hsid
              exact handled_advertise cfg now newXid hsid (not_not.mp hcan)
            · rename_i serviceId hsid
              exact handled_reply cfg now newXid hsid (not_not.mp hxid) hclient (not_not.mp hcan)

/-- A datagram is garbled and sets the timer, or it is refused without a trace, or it moves the
client on. -/
inductive Received (d : Datagram) (c : Client) : Client × Option Nat → Prop
  | garbled (failures : Nat) : d.garbled = true → acceptedReply cfg c.status d = none →
    Received d c ({ logged now d c with
      connectFailureCount := failures
      timeoutTimes := 1 }.publish, some (statusTimeoutDuration now c.status 0))
  | refused (failures : Nat) : d.garbled = false → acceptedReply cfg c.status d = none →
    Received d c ({ logged now d c with connectFailureCount := failures }.publish, none)
  | advertise (failures : Nat) (xid : UInt32) (serviceId : Duid) (iapd : IAPD)
    (serverUnicast : Option Ipv6Addr) :
      c.status = .solicit xid → acceptedReply cfg c.status d = none →
    Received d c ({ logged now d c with
      status := .request newXid serviceId iapd serverUnicast 0
      connectFailureCount := failures
      timeoutTimes := 1 }.publish, some 0)
  | reply (failures : Nat) (source : Ipv6Addr) (held : Held) (p : IAPrefix) :
    acceptedReply cfg c.status d = some (held.iapd, p) → held.iapd.usable = some p →
      held.boundTime = now →
    Received d c ({ acceptReply cfg now newXid source held p (logged now d c) with
      connectFailureCount := failures
      timeoutTimes := 1 }.publish, some (statusTimeoutDuration now (.bound newXid held) 0))

theorem received (d : Datagram) (c : Client) :
    Received cfg now newXid d c (onDatagram cfg now newXid d c) := by
  have h := handled cfg now newXid d (logged now d c)
  rw [onDatagram]
  generalize handlePacket cfg now newXid d (logged now d c) = r at h
  cases h with
  | garbled hd hacc => exact .garbled _ hd hacc
  | refused hd hacc => exact .refused _ hd hacc
  | advertise xid serviceId iapd unicast hstatus hacc => exact .advertise _ xid _ _ _ hstatus hacc
  | reply source held p hacc husable htime => exact .reply _ source held p hacc husable htime

def Held.remaining (held : Held) : Nat := held.iapd.validLifetime - (now - held.boundTime)

/-- The timer runs out: the client waits after too many Solicits, gives up a prefix that is over, or
goes on in its state. -/
inductive Fired (c : Client) (wait : Nat) : Client → Prop
  | backOff (xid : UInt32) (failures : Nat) : c.status = .solicit xid → 4 < c.timeoutTimes →
    secs 10 ≤ wait → wait ≤ secs 600 →
    Fired c wait
      { c with status := .solicit newXid, timeoutTimes := 1, connectFailureCount := failures }
  | expired (held : Held) : c.status.held? = some held → held.remaining now = 0 → wait = 0 →
    Fired c wait { clearActivePdPrefix now
      { c with status := .solicit newXid } with timeoutTimes := 1 }.publish
  | solicit (xid : UInt32) : c.status = .solicit xid → c.timeoutTimes ≤ 4 →
    wait = secs (10 * c.timeoutTimes) →
    Fired c wait { c.send now (some (solicitMessage cfg.clientId xid)) with
      timeoutTimes := c.timeoutTimes + 1 }.publish
  | request (xid : UInt32) (serviceId : Duid) (iapd : IAPD) (serverUnicast : Option Ipv6Addr)
      (sendTimes : Nat) :
    c.status = .request xid serviceId iapd serverUnicast sendTimes → sendTimes ≤ 4 →
    wait = secs (10 * c.timeoutTimes) →
    Fired c wait
      { { c with status := .request xid serviceId iapd serverUnicast (sendTimes + 1) }.send now
        (some (requestMessage cfg.clientId xid serviceId iapd)) with
      timeoutTimes := c.timeoutTimes + 1 }.publish
  | requestOver (xid : UInt32) (serviceId : Duid) (iapd : IAPD) (serverUnicast : Option Ipv6Addr)
      (sendTimes : Nat) :
    c.status = .request xid serviceId iapd serverUnicast sendTimes → 4 < sendTimes → wait = 0 →
    Fired c wait { { c with status := .solicit newXid }.send now
        (some (requestMessage cfg.clientId xid serviceId iapd)) with timeoutTimes := 1 }.publish
  | bound (xid : UInt32) (held : Held) :
    c.status = .bound xid held → 0 < held.remaining now → wait = 0 →
    Fired c wait { { c with status := .renew newXid held now }.send now none with
      timeoutTimes := 1 }.publish
  | renew (xid : UInt32) (held : Held) (renewTime : Nat) : c.status = .renew xid held renewTime →
    0 < held.remaining now → renewingOver now held = false →
    wait = min (secs (10 * c.timeoutTimes)) (held.remaining now) →
    Fired c wait { { c with status := .renew xid held renewTime }.send now
        (some (renewMessage cfg.clientId now xid held renewTime)) with
      timeoutTimes := c.timeoutTimes + 1 }.publish
  | renewOver (xid : UInt32) (held : Held) (renewTime : Nat) :
    c.status = .renew xid held renewTime → 0 < held.remaining now → renewingOver now held = true →
    wait = min (secs held.iapd.rebindSecs - (now - held.boundTime)) (held.remaining now) →
    Fired c wait { { c with status := .waitToRebind xid held }.send now
        (some (renewMessage cfg.clientId now xid held renewTime)) with timeoutTimes := 1 }.publish
  | waitToRebind (xid : UInt32) (held : Held) :
    c.status = .waitToRebind xid held → 0 < held.remaining now → wait = 0 →
    Fired c wait { { c with status := .rebind newXid held now }.send now none with
      timeoutTimes := 1 }.publish
  | rebind (xid : UInt32) (held : Held) (rebindTime : Nat) :
    c.status = .rebind xid held rebindTime → 0 < held.remaining now →
    wait = min (secs (10 * c.timeoutTimes)) (held.remaining now) →
    Fired c wait { { c with status := .rebind xid held rebindTime }.send now
        (some (rebindMessage cfg.clientId now xid held rebindTime)) with
      timeoutTimes := c.timeoutTimes + 1 }.publish

theorem backoff_bounds (failures : Nat) :
    10 ≤ calcConnectRetryBackoffSecs failures ∧ calcConnectRetryBackoffSecs failures ≤ 600 := by
  have hpow : 1 ≤ 2 ^ min (failures - 1) 31 := Nat.one_le_two_pow
  have hmul : ipv6TimeoutDefaultDuraction * 1 ≤
      ipv6TimeoutDefaultDuraction * 2 ^ min (failures - 1) 31 := Nat.mul_le_mul_left _ hpow
  have hten : ipv6TimeoutDefaultDuraction = 10 := rfl
  have hmax : maxConnectRetryBackoffSecs = 600 := rfl
  rw [calcConnectRetryBackoffSecs]
  omega

theorem timeout_of_held {status : IpV6PdState} (h : status.held? = some held) (times : Nat) :
    statusTimeoutDuration now status times = min (protocolTimeout now status times)
    (held.remaining now) := by
  rw [statusTimeoutDuration, activePrefixRemaining, h]
  rfl

theorem timeout_of_free {status : IpV6PdState} (h : status.held? = none) (times : Nat) :
    statusTimeoutDuration now status times = protocolTimeout now status times := by
  rw [statusTimeoutDuration, activePrefixRemaining, h]
  rfl

def IpV6PdState.repeats : IpV6PdState → Bool
  | .bound .. | .waitToRebind .. => false
  | _ => true

theorem protocolTimeout_of_repeats {status : IpV6PdState} (h : status.repeats = true)
    (times : Nat) :
    protocolTimeout now status times = secs (10 * times) := by
  cases status with
  | bound | waitToRebind => cases h
  | solicit | request | renew | rebind => rfl

theorem timeout_zero_of_repeats (status : IpV6PdState) (h : status.repeats = true) :
    statusTimeoutDuration now status 0 = 0 := by
  have hzero : protocolTimeout now status 0 = 0 := protocolTimeout_of_repeats now h 0
  cases hheld : status.held? with
  | none => rw [timeout_of_free now hheld, hzero]
  | some held => rw [timeout_of_held now hheld, hzero, Nat.zero_min]

section
variable {c : Client} {old status : IpV6PdState} {msg : Option SentMessage}
  (h : activePrefixRemaining now c.status ≠ some 0) (hold : c.status = old)
include h hold

theorem sendStatus_reset (hsend : sendValid cfg.clientId now newXid old = (status, msg, .reset)) :
    sendStatus cfg now newXid c =
      ({ { c with status := status }.send now msg with timeoutTimes := 1 }.publish,
        statusTimeoutDuration now status 0) := by
  subst hold
  simp only [sendStatus, sendCurrentStatusPacket, if_neg h, hsend]
  rfl

theorem sendStatus_noChange (hsend : sendValid cfg.clientId now newXid old =
    (status, msg, .noChange)) :
    sendStatus cfg now newXid c =
      ({ { c with status := status }.send now msg with timeoutTimes := c.timeoutTimes + 1 }.publish,
        statusTimeoutDuration now status c.timeoutTimes) := by
  subst hold
  simp only [sendStatus, sendCurrentStatusPacket, if_neg h, hsend]
  rfl

end

theorem fired_held (hheld : c.status.held? = some held) (hpos : 0 < held.remaining now) :
    Fired cfg now newXid c (sendStatus cfg now newXid c).2 (sendStatus cfg now newXid c).1 := by
  have hvalid : activePrefixRemaining now c.status ≠ some 0 := by
    rw [activePrefixRemaining, hheld]
    intro heq
    have hzero : held.remaining now = 0 := Option.some.inj heq
    omega
  cases hstatus : c.status <;> rw [hstatus] at hheld <;> cases hheld
  case bound xid =>
    rw [sendStatus_reset cfg now newXid hvalid hstatus rfl,
      timeout_zero_of_repeats now (.renew ..) rfl]
    exact .bound xid held hstatus hpos rfl
  case renew xid t =>
    cases hover : renewingOver now held with
    | false =>
      have hsend : sendValid cfg.clientId now newXid (.renew xid held t) =
          (.renew xid held t, some (renewMessage cfg.clientId now xid held t), .noChange) := by
        rw [sendValid, hover]
        rfl
      rw [sendStatus_noChange cfg now newXid hvalid hstatus hsend, timeout_of_held now rfl]
      exact .renew xid held t hstatus hpos hover rfl
    | true =>
      have hsend : sendValid cfg.clientId now newXid (.renew xid held t) =
          (.waitToRebind xid held, some (renewMessage cfg.clientId now xid held t), .reset) := by
        rw [sendValid, hover]
        rfl
      rw [sendStatus_reset cfg now newXid hvalid hstatus hsend, timeout_of_held now rfl]
      exact .renewOver xid held t hstatus hpos hover rfl
  case waitToRebind xid =>
    rw [sendStatus_reset cfg now newXid hvalid hstatus rfl,
      timeout_zero_of_repeats now (.rebind ..) rfl]
    exact .waitToRebind xid held hstatus hpos rfl
  case rebind xid t =>
    rw [sendStatus_noChange cfg now newXid hvalid hstatus rfl, timeout_of_held now rfl]
    exact .rebind xid held t hstatus hpos rfl

theorem fired_expired (hheld : c.status.held? = some held) (hover : held.remaining now = 0) :
    Fired cfg now newXid c (sendStatus cfg now newXid c).2 (sendStatus cfg now newXid c).1 := by
  have hexpired : activePrefixRemaining now c.status = some 0 := by
    rw [activePrefixRemaining, hheld]
    exact congrArg some hover
  have hwait : statusTimeoutDuration now (.solicit newXid) 0 = 0 :=
    timeout_zero_of_repeats now _ rfl
  have hsend : sendStatus cfg now newXid c =
      ({ clearActivePdPrefix now { c with status := .solicit newXid } with
        timeoutTimes := 1 }.publish, statusTimeoutDuration now (.solicit newXid) 0) := by
    simp only [sendStatus, sendCurrentStatusPacket, if_pos hexpired]
    rfl
  rw [hsend, hwait]
  exact .expired held hheld hover rfl

theorem fired_request {xid : UInt32} {serviceId : Duid} {iapd : IAPD}
    {serverUnicast : Option Ipv6Addr} {sendTimes : Nat}
    (hstatus : c.status = .request xid serviceId iapd serverUnicast sendTimes) :
    Fired cfg now newXid c (sendStatus cfg now newXid c).2 (sendStatus cfg now newXid c).1 := by
  have hvalid : activePrefixRemaining now c.status ≠ some 0 := by
    rw [activePrefixRemaining, hstatus]
    nofun
  by_cases hlast : sendTimes > 4
  · rw [sendStatus_reset cfg now newXid hvalid hstatus (if_pos hlast),
      timeout_zero_of_repeats now (.solicit _) rfl]
    exact .requestOver xid serviceId iapd serverUnicast sendTimes hstatus hlast rfl
  · rw [sendStatus_noChange cfg now newXid hvalid hstatus (if_neg hlast), timeout_of_free now rfl]
    exact .request xid serviceId iapd serverUnicast sendTimes hstatus (Nat.le_of_not_lt hlast) rfl

theorem fired_solicit {xid : UInt32} (hstatus : c.status = .solicit xid)
    (htimes : c.timeoutTimes ≤ 4) :
    Fired cfg now newXid c (sendStatus cfg now newXid c).2 (sendStatus cfg now newXid c).1 := by
  have hvalid : activePrefixRemaining now c.status ≠ some 0 := by
    rw [activePrefixRemaining, hstatus]
    nofun
  have hsend : sendValid cfg.clientId now newXid c.status =
      (c.status, some (solicitMessage cfg.clientId xid), .noChange) := by
    rw [hstatus, sendValid]
  have hwait : statusTimeoutDuration now c.status c.timeoutTimes = secs (10 * c.timeoutTimes) := by
    rw [hstatus, timeout_of_free now rfl]
    rfl
  rw [sendStatus_noChange cfg now newXid hvalid rfl hsend, hwait]
  exact .solicit xid hstatus htimes rfl

theorem fired (c : Client) : Fired cfg now newXid c (onTimer cfg now newXid c).2
    (onTimer cfg now newXid c).1 := by
  rw [onTimer]
  split
  · rename_i hback
    cases hstatus : c.status with
    | solicit xid =>
      have hbounds := backoff_bounds (min (c.connectFailureCount + 1) (2 ^ 32 - 1))
      refine .backOff xid _ hstatus hback.1 ?_ ?_
      · exact Nat.mul_le_mul_right 1000 hbounds.1
      · exact Nat.mul_le_mul_right 1000 hbounds.2
    | request | bound | renew | waitToRebind | rebind =>
      rw [hstatus] at hback
      cases hback.2
  · rename_i hgo
    cases hheld : c.status.held? with
    | some held =>
      by_cases hpos : held.remaining now = 0
      · exact fired_expired cfg now newXid hheld hpos
      · exact fired_held cfg now newXid hheld (Nat.pos_of_ne_zero hpos)
    | none =>
      cases hstatus : c.status with
      | request xid serviceId iapd unicast n => exact fired_request cfg now newXid hstatus
      | solicit xid =>
        refine fired_solicit cfg now newXid hstatus (Nat.le_of_not_lt fun hlt => hgo ⟨hlt,?_⟩)
        rw [hstatus]
        rfl
      | bound | renew | waitToRebind | rebind =>
        rw [hstatus] at hheld
        cases hheld

end

inductive Turn (cfg : Config) (c : Clocked Client) : Moment Drawn → Clocked Client → Prop
  | pass (d : Nat) : c.now + d ≤ c.deadline → Turn cfg c (.pass d) { c with now := c.now + d }
  | ended (e : Drawn) : c.state.running = false → Turn cfg c (.event e) c
  | timer (random : UInt32) (s : Client) (wait : Nat) :
      c.state.running = true → c.now = c.deadline →
    Fired cfg c.now (getNewIpv6Xid random) c.state wait s →
    Turn cfg c (.event ⟨random,.timer⟩) ⟨c.now,c.now + wait,s⟩
  | datagram (random : UInt32) (d : Datagram) (s : Client) (wait : Option Nat) :
      c.state.running = true →
    Received cfg c.now (getNewIpv6Xid random) d c.state (s, wait) →
    Turn cfg c (.event ⟨random,.datagram d⟩) ⟨c.now,wait.elim c.deadline (c.now + ·),s⟩
  | stop (random : UInt32) : c.state.running = true →
    Turn cfg c (.event ⟨random,.stop⟩)
      ⟨c.now,c.deadline,onStop cfg c.now (getNewIpv6Xid random) c.state⟩

theorem turn_of_step {cfg : Config} {c c' : Clocked Client} {m : Moment Drawn}
    (hs : (loop cfg).step c m = some c') : Turn cfg c m c' := by
  cases m with
  | pass d =>
    obtain ⟨hle,rfl⟩ := step_pass hs
    exact .pass d hle
  | event e =>
    obtain ⟨hdue,rfl⟩ := step_event hs
    obtain ⟨random,event⟩ := e
    cases hrun : c.state.running with
    | false =>
      have hidle : (loop cfg).handle c.now c.state ⟨random,event⟩ = (c.state, none) := by
        simp only [loop, onEvent, hrun]
        rfl
      rw [hidle]
      exact .ended _ hrun
    | true =>
      cases event with
      | timer =>
        have hfire : (loop cfg).handle c.now c.state ⟨random,.timer⟩ =
            ((onTimer cfg c.now (getNewIpv6Xid random) c.state).1,
              some (onTimer cfg c.now (getNewIpv6Xid random) c.state).2) := by
          simp only [loop, onEvent, hrun]
          rfl
        rw [hfire]
        exact .timer random _ _ hrun (hdue rfl) (fired cfg c.now _ c.state)
      | datagram d =>
        have hrecv : (loop cfg).handle c.now c.state ⟨random,.datagram d⟩ =
            onDatagram cfg c.now (getNewIpv6Xid random) d c.state := by
          simp only [loop, onEvent, hrun]
          rfl
        rw [hrecv]
        exact .datagram random d _ _ hrun (received cfg c.now _ d c.state)
      | stop =>
        have hstop : (loop cfg).handle c.now c.state ⟨random,.stop⟩ =
            (onStop cfg c.now (getNewIpv6Xid random) c.state, none) := by
          simp only [loop, onEvent, hrun]
          rfl
        rw [hstop]
        exact .stop random hrun

end Landscape.Dhcp6.PdClient
