import Landscape.Dhcp6.PdExpiry

/-! How often the client sends: not more than a few messages a second for each datagram that reaches
it, and at least every eleven minutes while it has no lease. -/
namespace Landscape.Dhcp6.PdClient
open Timed Run List

def countIn {α : Type} (w : Nat) (log : List (Nat × α)) : Nat :=
  (log.filter fun e => w ≤ e.1 && e.1 < w + 1000).length

section Count
variable {α : Type} {w t : Nat} {log : List (Nat × α)} {x : α}

theorem countIn_cons_of_in (h : w ≤ t ∧ t < w + 1000) :
    countIn w ((t, x) :: log) = countIn w log + 1 := by
  have hin : (decide (w ≤ t) && decide (t < w + 1000)) = true :=
    Bool.and_eq_true_iff.mpr ⟨decide_eq_true h.1,decide_eq_true h.2⟩
  rw [countIn, filter_cons, if_pos hin, length_cons, countIn]

theorem countIn_cons_of_out (h : ¬(w ≤ t ∧ t < w + 1000)) :
    countIn w ((t, x) :: log) = countIn w log := by
  have hout : ¬(decide (w ≤ t) && decide (t < w + 1000)) = true := by
    rw [Bool.and_eq_true_iff, decide_eq_true_iff, decide_eq_true_iff]
    exact h
  rw [countIn, filter_cons, if_neg hout, countIn]

theorem countIn_le_cons : countIn w log ≤ countIn w ((t, x) :: log) := by
  by_cases h : w ≤ t ∧ t < w + 1000
  · rw [countIn_cons_of_in h]
    exact Nat.le_add_right _ _
  · rw [countIn_cons_of_out h]

end Count

/-! What a state may still send without a datagram before the second is over. -/

/-- Solicit follows everything; Rebind follows Renew. -/
def sendsLeft : IpV6PdState → Nat
  | .solicit _ => 1
  | .request .. | .waitToRebind .. | .rebind .. => 2
  | .bound .. | .renew .. => 3

/-- The messages that the timer can cause before `W`: none if it is due later, and only a Solicit if
the prefix is over when it is due. -/
def potential (W : Nat) (c : Clocked Client) : Nat :=
  if W ≤ c.deadline then 0
  else if c.state.status.held?.any fun held => held.boundTime + held.iapd.validLifetime ≤
    c.deadline then 1
  else sendsLeft c.state.status

variable {cfg : Config} {c : Clocked Client} {W w : Nat}

theorem sendsLeft_bounds (status : IpV6PdState) : 1 ≤ sendsLeft status ∧ sendsLeft status ≤ 3 := by
  cases status <;> simp [sendsLeft]

theorem potential_le_sendsLeft : potential W c ≤ sendsLeft c.state.status := by
  have hbounds := sendsLeft_bounds c.state.status
  unfold potential
  split
  · exact Nat.zero_le _
  · split
    · exact hbounds.1
    · exact Nat.le_refl _

theorem potential_of_late (h : W ≤ c.deadline) : potential W c = 0 := if_pos h

theorem potential_of_due (h : c.deadline < W)
    (hvalid : ∀ held, c.state.status.held? = some held →
      c.deadline < held.boundTime + held.iapd.validLifetime) :
    potential W c = sendsLeft c.state.status := by
  rw [potential, if_neg (Nat.not_le_of_lt h), if_neg]
  cases hheld : c.state.status.held? with
  | none => nofun
  | some held =>
    rw [Option.any_some, decide_eq_true_iff]
    exact Nat.not_le_of_lt (hvalid held hheld)

variable {s : Client} {wait now : Nat} {newXid : UInt32} {c' : Clocked Client} {m : Moment Drawn}
  {d : Datagram} {P : Clocked Client → Moment Drawn → Prop} {random : UInt32}

theorem potential_le_one {held : Held} (hheld : c.state.status.held? = some held)
    (h : W ≤ c.deadline ∨ held.boundTime + held.iapd.validLifetime ≤ c.deadline) :
    potential W c ≤ 1 := by
  unfold potential
  split
  · exact Nat.zero_le _
  · rename_i hdue
    obtain hlate | hover := h
    · exact absurd hlate hdue
    · rw [if_pos]
      rw [hheld, Option.any_some]
      exact decide_eq_true hover

theorem potential_repeat {held : Held} (hs : Sound c) (hold : c.state.status.held? = some held)
    (hheld : s.status.held? = some held) (hnear : W ≤ c.now + secs 10) :
    potential W
      ⟨c.now,c.now + min (secs (10 * c.state.timeoutTimes)) (held.remaining c.now),s⟩ ≤ 1 := by
  have hrem := hs.remaining hold
  have htimes := hs.times
  refine potential_le_one hheld ?_
  unfold secs at hnear ⊢
  dsimp only
  omega

theorem potential_fired (hs : Sound c) (hdue : c.now = c.deadline) (hin : c.now < W)
    (hnear : W ≤ c.now + secs 10) (hf : Fired cfg c.now newXid c.state wait s) :
    s.trace.sent = c.state.trace.sent ∧ potential W ⟨c.now,c.now + wait,s⟩ ≤ potential W c ∨
      ∃ msg, s.trace.sent = (c.now, msg) :: c.state.trace.sent ∧
        potential W ⟨c.now,c.now + wait,s⟩ + 1 ≤ potential W c := by
  have hW : c.deadline < W := hdue ▸ hin
  have htimes := hs.times
  have hten : secs 10 ≤ secs (10 * c.state.timeoutTimes) := by
    unfold secs
    omega
  -- With a valid prefix the state may send all that is left.
  have hfull : (∀ held, c.state.status.held? = some held → 0 < held.remaining c.now) →
      potential W c = sendsLeft c.state.status := by
    intro hvalid
    refine potential_of_due hW fun held hheld => ?_
    have hrem := hs.remaining hheld
    have hpos := hvalid held hheld
    omega
  cases hf with
  | backOff xid failures hstatus _ hlow =>
    refine .inl ⟨rfl,?_⟩
    rw [potential_of_late (Nat.le_trans hnear (Nat.add_le_add_left hlow _))]
    exact Nat.zero_le _
  | expired held hheld hover hwait =>
    refine .inl ⟨rfl,?_⟩
    have hrem := hs.remaining hheld
    have hone : potential W c = 1 := by
      rw [potential, if_neg (Nat.not_le_of_lt hW), if_pos]
      rw [hheld, Option.any_some]
      exact decide_eq_true (by omega)
    rw [hone]
    exact potential_le_sendsLeft
  | solicit _ hstatus _ hwait | request _ _ _ _ _ hstatus _ hwait =>
    refine .inr ⟨_,rfl,?_⟩
    rw [potential_of_late (by rw [hwait]; exact Nat.le_trans hnear (Nat.add_le_add_left hten _)),
      hfull (by rw [hstatus]; nofun)]
    exact (sendsLeft_bounds _).1
  | requestOver _ _ _ _ _ hstatus =>
    refine .inr ⟨_,rfl,?_⟩
    rw [hfull (by rw [hstatus]; nofun), hstatus]
    exact Nat.succ_le_succ potential_le_sendsLeft
  | bound _ _ hstatus hpos | waitToRebind _ _ hstatus hpos =>
    refine .inl ⟨rfl,?_⟩
    rw [hfull (by rw [hstatus]; rintro held' ⟨⟩; exact hpos), hstatus]
    exact potential_le_sendsLeft
  | renew _ held _ hstatus hpos _ hwait | rebind _ held _ hstatus hpos hwait =>
    refine .inr ⟨_,rfl,?_⟩
    have hold : c.state.status.held? = some held := by rw [hstatus]; rfl
    rw [hfull (by rw [hstatus]; rintro held' ⟨⟩; exact hpos), hstatus, hwait]
    exact Nat.le_trans (Nat.succ_le_succ (potential_repeat hs hold rfl hnear)) (by simp [sendsLeft])
  | renewOver xid held t hstatus hpos =>
    refine .inr ⟨_,rfl,?_⟩
    rw [hfull (by rw [hstatus]; rintro held' ⟨⟩; exact hpos), hstatus]
    exact Nat.succ_le_succ potential_le_sendsLeft

def credit (W : Nat) (c : Clocked Client) : Nat := if c.state.running then potential W c + 1 else 0

structure Paced (w : Nat) (c : Clocked Client) : Prop where
  before : c.now < w → countIn w c.state.trace.sent = 0
  paid : countIn w c.state.trace.sent + credit (w + 1000) c ≤
    3 * countIn w c.state.trace.received + 4

theorem credit_le : credit W c ≤ 4 := by
  have hle : potential W c ≤ sendsLeft c.state.status := potential_le_sendsLeft
  have hthree := (sendsLeft_bounds c.state.status).2
  unfold credit
  split <;> omega

theorem Paced.timer (h : Paced w c) (hs : Sound c) (hlive : c.state.running = true)
    (hdue : c.now = c.deadline) (hf : Fired cfg c.now newXid c.state wait s) :
    Paced w ⟨c.now,c.now + wait,s⟩ := by
  have hrun : s.running = true := by cases hf <;> exact hlive
  have hreceived : s.trace.received = c.state.trace.received := by cases hf <;> rfl
  have hlog : s.trace.sent = c.state.trace.sent ∨ ∃ msg, s.trace.sent = (c.now, msg) ::
      c.state.trace.sent := by
    cases hf
    case backOff | expired | bound | waitToRebind => exact .inl rfl
    all_goals exact .inr ⟨_,rfl⟩
  have hcredit : credit (w + 1000) c = potential (w + 1000) c + 1 := if_pos hlive
  have hcredit' : credit (w + 1000) ⟨c.now,c.now + wait,s⟩ =
      potential (w + 1000) ⟨c.now,c.now + wait,s⟩ + 1 :=
    if_pos hrun
  have hpaid := h.paid
  by_cases hin : w ≤ c.now ∧ c.now < w + 1000
  · refine ⟨fun hlt => absurd hin.1 (Nat.not_le_of_lt hlt),?_⟩
    have hnear : w + 1000 ≤ c.now + secs 10 := by
      unfold secs
      omega
    rw [hreceived, hcredit']
    obtain ⟨hsent,hle⟩ | ⟨msg,hsent,hle⟩ := potential_fired hs hdue hin.2 hnear hf
    · rw [hsent]
      omega
    · rw [hsent, countIn_cons_of_in hin]
      omega
  · -- What is sent at another time does not count.
    have hsame : countIn w s.trace.sent = countIn w c.state.trace.sent := by
      obtain hsent | ⟨msg,hsent⟩ := hlog
      · rw [hsent]
      · rw [hsent, countIn_cons_of_out hin]
    refine ⟨fun hlt => hsame.trans (h.before hlt),?_⟩
    rw [hsame, hreceived]
    by_cases hearly : c.now < w
    · have hzero := h.before hearly
      have hle : credit (w + 1000) ⟨c.now,c.now + wait,s⟩ ≤ 4 := credit_le
      omega
    · have hlate : w + 1000 ≤ c.now + wait := by omega
      rw [hcredit', potential_of_late hlate]
      omega

theorem Paced.datagram {wait : Option Nat} (h : Paced w c) (hs : Sound c)
    (hlive : c.state.running = true) (hr : Received cfg c.now newXid d c.state (s, wait)) :
    Paced w ⟨c.now,wait.elim c.deadline (c.now + ·),s⟩ := by
  have hrun : s.running = true := by cases hr <;> exact hlive
  have hsent : s.trace.sent = c.state.trace.sent := by cases hr <;> rfl
  have hreceived : s.trace.received = (c.now, d) :: c.state.trace.received := by cases hr <;> rfl
  have hlog : countIn w c.state.trace.received ≤ countIn w s.trace.received := by
    rw [hreceived]
    exact countIn_le_cons
  have hdue := hs.due
  have hpaid := h.paid
  have hcredit : credit (w + 1000) c = potential (w + 1000) c + 1 := if_pos hlive
  refine ⟨fun hlt => (congrArg (countIn w) hsent).trans (h.before hlt),?_⟩
  have hle : credit (w + 1000) ⟨c.now,wait.elim c.deadline (c.now + ·),s⟩ ≤ 4 := credit_le
  dsimp only
  rw [hsent]
  by_cases hearly : c.now < w
  · have hzero := h.before hearly
    omega
  · by_cases hin : c.now < w + 1000
    · have hmore : countIn w s.trace.received = countIn w c.state.trace.received + 1 := by
        rw [hreceived]
        exact countIn_cons_of_in ⟨Nat.le_of_not_lt hearly,hin⟩
      omega
    · have hlate : w + 1000 ≤ wait.elim c.deadline (c.now + ·) := by
        cases wait with
        | none => exact Nat.le_trans (Nat.le_of_not_lt hin) hdue
        | some wait => exact Nat.le_trans (Nat.le_of_not_lt hin) (Nat.le_add_right _ _)
      have hnone : credit (w + 1000) ⟨c.now,wait.elim c.deadline (c.now + ·),s⟩ = 1 := by
        rw [credit, potential_of_late hlate]
        exact if_pos hrun
      omega

theorem countIn_send (now : Nat) {msg : Option SentMessage} :
    countIn w (s.send now msg).trace.sent ≤ countIn w s.trace.sent + 1 ∧
      (now < w → countIn w (s.send now msg).trace.sent = countIn w s.trace.sent) := by
  cases msg with
  | none => exact ⟨Nat.le_succ _,fun _ => rfl⟩
  | some msg =>
    change countIn w ((now, msg) :: s.trace.sent) ≤ _ ∧
      (_ → countIn w ((now, msg) :: s.trace.sent) = _)
    refine ⟨?_,fun hlt => countIn_cons_of_out fun hin => absurd hin.1 (Nat.not_le_of_lt hlt)⟩
    by_cases hin : w ≤ now ∧ now < w + 1000
    · rw [countIn_cons_of_in hin]
    · rw [countIn_cons_of_out hin]
      exact Nat.le_succ _

theorem Paced.turn {c : Clocked Client} (ht : Turn cfg c m c')
    (h : Paced w c ∧ (c.state.running = true → Sound c)) :
    Paced w c' ∧ (c'.state.running = true → Sound c') := by
  refine ⟨?_,Sound.turn ht h.2⟩
  obtain ⟨hpaced,hsound⟩ := h
  cases ht with
  | pass d =>
    exact ⟨fun hlt => hpaced.before (Nat.lt_of_le_of_lt (Nat.le_add_right _ _) hlt),hpaced.paid⟩
  | ended => exact hpaced
  | timer _ _ _ hlive hdue hf => exact hpaced.timer (hsound hlive) hlive hdue hf
  | datagram _ _ _ _ hlive hr => exact hpaced.datagram (hsound hlive) hlive hr
  | stop random hlive =>
    obtain ⟨hle,hout⟩ := countIn_send c.now
    have hcredit : credit (w + 1000) c = potential (w + 1000) c + 1 := if_pos hlive
    have hpaid := hpaced.paid
    refine ⟨fun hlt => (hout hlt).trans (hpaced.before hlt),?_⟩
    change countIn w ((clearActivePdPrefix c.now c.state).send c.now _).trace.sent + 0 ≤ _
    have hbefore : countIn w (clearActivePdPrefix c.now c.state).trace.sent =
      countIn w c.state.trace.sent := rfl
    change _ ≤ 3 * countIn w c.state.trace.received + 4
    omega

/-- In any second the client sends at most three messages for each datagram it receives then, and
four more. -/
theorem sent_le_received (hrun : Runs (loop cfg).step P (start now random) c) :
    countIn w c.state.trace.sent ≤ 3 * countIn w c.state.trace.received + 4 := by
  have hpaced := hrun.invariant (fun c => Paced w c ∧ (c.state.running = true → Sound c))
    (fun _ _ _ h _ hs => Paced.turn (turn_of_step hs) h)
    ⟨⟨fun _ => rfl,Nat.add_le_add_left credit_le _⟩,fun _ => sound_start⟩
  exact Nat.le_trans (Nat.le_add_right _ _) hpaced.1.paid

def AskedIn (w W : Nat) (c : Client) : Prop :=
  ∃ e ∈ c.trace.sent, w ≤ e.1 ∧ e.1 < W ∧ (e.2.msgType = .solicit ∨ e.2.msgType = .request)

def Leaseless (c : Clocked Client) (_ : Moment Drawn) : Prop :=
  c.state.running = true ∧ c.state.status.held? = none

/-- A timer is pending, and eleven minutes without a lease do not go by without a Solicit or a
Request. -/
def NeverStalls (cfg : Config) (c : Clocked Client) : Prop :=
  (c.state.running = true → c.now ≤ c.deadline) ∧
    ∀ c', Runs (loop cfg).step Leaseless c c' → c.now + secs 660 ≤ c'.now →
      AskedIn c.now (c.now + secs 660) c'.state

structure Waits (w : Nat) (c : Clocked Client) : Prop where
  due : c.deadline ≤ w + secs 640
  fifth : ∀ xid, c.state.status = .solicit xid → 4 < c.state.timeoutTimes → c.deadline ≤ w + secs 40

structure Counted (c : Client) : Prop where
  solicit : ∀ xid, c.status = .solicit xid → c.timeoutTimes ≤ 5
  request : ∀ xid sid iapd unicast n, c.status = .request xid sid iapd unicast n →
    c.timeoutTimes ≤ n + 1 ∧ n ≤ 5

structure Brisk (c : Clocked Client) : Prop where
  counted : Counted c.state
  waits : c.state.running = true → c.state.status.held? = none → Waits c.now c

theorem Waits.mono {w' : Nat} (h : Waits w c) (hle : w ≤ w') : Waits w' c :=
  ⟨Nat.le_trans h.due (Nat.add_le_add_right hle _),
    fun xid hs ht => Nat.le_trans (h.fifth xid hs ht) (Nat.add_le_add_right hle _)⟩

theorem waits_first {deadline : Nat} (hdue : deadline ≤ w + secs 640)
    (htimes : s.timeoutTimes = 1) :
    Waits w ⟨now,deadline,s⟩ := by
  refine ⟨hdue,fun _ _ hlt => ?_⟩
  change 4 < s.timeoutTimes at hlt
  omega

theorem Counted.first (htimes : s.timeoutTimes = 1)
    (hn : ∀ xid sid iapd unicast n, s.status = .request xid sid iapd unicast n → n ≤ 5) :
    Counted s := by
  refine ⟨fun _ _ => ?_,fun xid sid iapd unicast n hs => ⟨?_,hn xid sid iapd unicast n hs⟩⟩ <;>
    omega

theorem Counted.held {held : Held} (h : s.status.held? = some held) : Counted s := by
  refine ⟨fun _ hs => ?_,fun _ _ _ _ _ hs => ?_⟩ <;>
  · rw [hs] at h
    cases h

section
variable {s : Client} {newXid : UInt32}

theorem Counted.fired {wait : Nat} (h : Counted c.state)
    (hf : Fired cfg c.now newXid c.state wait s) : Counted s := by
  cases hf with
  | backOff | expired | requestOver => exact .first rfl nofun
  | solicit xid hstatus htimes =>
    refine ⟨fun _ _ => Nat.succ_le_succ htimes,fun _ _ _ _ _ hs => ?_⟩
    change c.state.status = _ at hs
    rw [hstatus] at hs
    cases hs
  | request xid sid iapd unicast n hstatus hn =>
    refine ⟨nofun,fun _ _ _ _ _ hs => ?_⟩
    cases hs
    exact ⟨Nat.succ_le_succ (h.request _ _ _ _ _ hstatus).1,Nat.succ_le_succ hn⟩
  | bound | renew | renewOver | waitToRebind | rebind => exact .held rfl

theorem Counted.received {wait : Option Nat} (h : Counted c.state)
    (hr : Received cfg c.now newXid d c.state (s, wait)) : Counted s := by
  cases hr with
  | garbled =>
    exact .first rfl fun xid sid iapd unicast n hs => (h.request xid sid iapd unicast n hs).2
  | refused => exact ⟨h.solicit,h.request⟩
  | advertise =>
    refine .first rfl fun _ _ _ _ _ hs => ?_
    cases hs
    exact Nat.zero_le _
  | reply => exact .held rfl

theorem Counted.turn {c' : Clocked Client} {m : Moment Drawn} (ht : Turn cfg c m c')
    (h : Counted c.state) :
    Counted c'.state := by
  cases ht with
  | pass | ended => exact h
  | timer _ _ _ _ _ hf => exact h.fired hf
  | datagram _ _ _ _ _ hr => exact h.received hr
  | stop => exact ⟨h.solicit,h.request⟩

theorem waits_fired {wait : Nat} (h : Counted c.state) (hf : Fired cfg c.now newXid c.state wait s)
    (hfree : s.status.held? = none) : Waits c.now ⟨c.now,c.now + wait,s⟩ := by
  cases hf with
  | backOff _ _ _ _ _ hle =>
    refine waits_first (Nat.add_le_add_left (Nat.le_trans hle ?_) _) rfl
    decide
  | expired _ _ _ hwait | requestOver _ _ _ _ _ _ _ hwait =>
    refine waits_first ?_ rfl
    rw [hwait]
    exact Nat.le_add_right _ _
  | solicit xid hstatus htimes hwait =>
    have hforty : wait ≤ secs 40 := by
      unfold secs at hwait ⊢
      omega
    refine ⟨Nat.add_le_add_left (Nat.le_trans hforty ?_) _,fun _ _ _ =>
      Nat.add_le_add_left hforty _⟩
    decide
  | request xid sid iapd unicast n hstatus hn hwait =>
    have htimes := (h.request _ _ _ _ _ hstatus).1
    refine ⟨?_,nofun⟩
    unfold secs at hwait ⊢
    dsimp only
    omega
  | bound | renew | renewOver | waitToRebind | rebind => cases hfree

theorem repeats_of_free {status : IpV6PdState} (h : status.held? = none) :
    status.repeats = true := by
  cases status with
  | solicit | request | renew | rebind => rfl
  | bound | waitToRebind => cases h

theorem Waits.received {wait : Option Nat} (h : Waits w c) (hdue : c.now ≤ w + secs 640)
    (hr : Received cfg c.now newXid d c.state (s, wait)) (hfree : s.status.held? = none) :
    Waits w ⟨c.now,wait.elim c.deadline (c.now + ·),s⟩ := by
  cases hr with
  | garbled =>
    refine waits_first ?_ rfl
    rw [timeout_zero_of_repeats c.now c.state.status (repeats_of_free hfree)]
    exact hdue
  | refused => exact ⟨h.due,h.fifth⟩
  | advertise => exact waits_first hdue rfl
  | reply => cases hfree

end

theorem free_of_received {wait : Option Nat}
    (hr : Received cfg c.now newXid d c.state (s, wait)) (hfree : s.status.held? = none) :
    c.state.status.held? = none := by
  cases hr with
  | garbled | refused => exact hfree
  | advertise _ _ _ _ _ hstatus =>
    rw [hstatus]
    rfl
  | reply => cases hfree

theorem Brisk.turn (ht : Turn cfg c m c') (h : Brisk c) : Brisk c' := by
  refine ⟨h.counted.turn ht,fun hlive hfree => ?_⟩
  cases ht with
  | pass d =>
    have hwaits := h.waits hlive hfree
    exact ⟨(hwaits.mono (Nat.le_add_right _ d)).due,(hwaits.mono (Nat.le_add_right _ d)).fifth⟩
  | ended => exact h.waits hlive hfree
  | timer _ _ _ _ _ hf => exact waits_fired (c := c) h.counted hf hfree
  | datagram _ _ _ _ hrun hr =>
    exact (h.waits hrun (free_of_received hr hfree)).received (Nat.le_add_right _ _) hr hfree
  | stop => cases hlive

def Asks (w : Nat) (c : Clocked Client) : Prop :=
  AskedIn w (w + secs 660) c.state ∨
    w ≤ c.now ∧ c.now ≤ w + secs 640 ∧ (c.state.running = true → c.state.status.held? = none →
      Waits w c)

theorem sent_turn (ht : Turn cfg c m c') : c.state.trace.sent ⊆ c'.state.trace.sent := by
  cases ht with
  | pass | ended => exact fun _ h => h
  | timer _ _ _ _ _ hf =>
    cases hf
    case backOff | expired | bound | waitToRebind => exact fun _ h => h
    all_goals exact fun _ h => mem_cons_of_mem _ h
  | datagram _ _ _ _ _ hr =>
    cases hr <;> exact fun _ h => h
  | stop => exact fun _ h => mem_append_right _ h

theorem AskedIn.turn (ht : Turn cfg c m c') (h : AskedIn w W c.state) : AskedIn w W c'.state := by
  obtain ⟨e,hmem,hin⟩ := h
  exact ⟨e,sent_turn ht hmem,hin⟩

/-- A client without a lease asks when its timer runs out, except after the fifth Solicit. -/
theorem asks_timer (h : Waits w c) (hw : w ≤ c.now) (hdue : c.now = c.deadline)
    (hfree : c.state.status.held? = none) (hf : Fired cfg c.now newXid c.state wait s) :
    Asks w ⟨c.now,c.now + wait,s⟩ := by
  have hlast := h.due
  have hearly : c.now < w + secs 660 := by
    unfold secs at hlast ⊢
    omega
  cases hf with
  | backOff xid _ hstatus hmany _ hwait =>
    have hforty := h.fifth xid hstatus hmany
    refine .inr ⟨hw,hdue ▸ hlast,fun _ _ => waits_first ?_ rfl⟩
    unfold secs at hforty hwait ⊢
    omega
  | solicit => exact .inl ⟨_,mem_cons_self,hw,hearly,.inl rfl⟩
  | request | requestOver => exact .inl ⟨_,mem_cons_self,hw,hearly,.inr rfl⟩
  | expired _ hheld =>
    rw [hfree] at hheld
    cases hheld
  | bound _ _ hstatus | renew _ _ _ hstatus | renewOver _ _ _ hstatus | waitToRebind _ _ hstatus
  | rebind _ _ _ hstatus =>
    rw [hstatus] at hfree
    cases hfree

theorem Asks.turn (ht : Turn cfg c m c') (hp : Leaseless c m) (h : Asks w c) : Asks w c' := by
  obtain hasked | ⟨hw,hnow,hwaits⟩ := h
  · exact .inl (hasked.turn ht)
  have hwait := hwaits hp.1 hp.2
  cases ht with
  | pass d hle =>
    exact .inr ⟨Nat.le_trans hw (Nat.le_add_right _ _),Nat.le_trans hle hwait.due,
      fun _ _ => ⟨hwait.due,hwait.fifth⟩⟩
  | ended _ hstopped =>
    rw [hp.1] at hstopped
    cases hstopped
  | timer _ _ _ _ hdue hf => exact asks_timer hwait hw hdue hp.2 hf
  | datagram _ _ _ _ _ hr => exact .inr ⟨hw,hnow,fun _ hfree => hwait.received hnow hr hfree⟩
  | stop => exact .inr ⟨hw,hnow,nofun⟩

theorem neverStalls (hrun : Runs (loop cfg).step P (start now random) c) : NeverStalls cfg c := by
  have hbrisk := hrun.invariant Brisk (fun _ _ _ h _ hs => h.turn (turn_of_step hs))
    ⟨.first rfl nofun,fun _ _ => waits_first (Nat.le_add_right _ _) rfl⟩
  refine ⟨fun hlive => (sound_of_runs hrun hlive).due,fun c' hlater hlong => ?_⟩
  have hasks := hlater.invariant (Asks c.now) (fun _ _ _ h hp hs => h.turn (turn_of_step hs) hp)
    (.inr ⟨Nat.le_refl _,Nat.le_add_right _ _,hbrisk.waits⟩)
  obtain hasked | ⟨-,hnow,-⟩ := hasks
  · exact hasked
  · unfold secs at hlong hnow
    omega

def SendsAtMost (B : Nat) (c : Clocked Client) : Prop := ∀ w, countIn w c.state.trace.sent ≤ B

/-- A client that receives at most `N` messages in any second sends at most `3 * N + 4` in one, and
it does not stall. -/
theorem sends_of_receives (N : Nat) {now : Nat} {random : UInt32}
    (hrun : Runs (loop cfg).step (fun _ _ => True) (start now random) c)
    (hreceived : ∀ w, countIn w c.state.trace.received ≤ N) :
    SendsAtMost (3 * N + 4) c ∧ NeverStalls cfg c := by
  refine ⟨fun w => ?_,neverStalls hrun⟩
  exact Nat.le_trans (sent_le_received hrun)
    (Nat.add_le_add_right (Nat.mul_le_mul_left 3 (hreceived w)) 4)

theorem countIn_le_length {α : Type} (log : List (Nat × α)) : countIn w log ≤ log.length :=
  length_filter_le _ _

theorem sends_of_receives_sample : ∃ c, Runs (loop sampleConfig).step (fun _ _ => True)
    (start 0 0) c ∧
    countIn 0 c.state.trace.received = 2 ∧ countIn 0 c.state.trace.sent = 2 ∧
    SendsAtMost (3 * 2 + 4) c ∧ NeverStalls sampleConfig c := by
  obtain ⟨c,hrun,hlen,hreceived,hsent⟩ := runs_of_steps (loop sampleConfig).step (start 0 0)
    (sampleLease [samplePrefix]) (fun c => c.state.trace.received.length = 2 ∧
      countIn 0 c.state.trace.received = 2 ∧ countIn 0 c.state.trace.sent = 2) (by decide +kernel)
  exact ⟨c,hrun,hreceived,hsent,sends_of_receives 2 hrun fun w => hlen ▸ countIn_le_length _⟩

def AlwaysPaced : Prop :=
  ∃ B, ∀ cfg now random c, Runs (loop cfg).step (fun _ _ => True) (start now random) c →
    SendsAtMost B c ∧ NeverStalls cfg c

def noise : Datagram := ⟨some sampleServer,none⟩

def soliciting (trace : Trace) : Client := { (start 0 0).state with trace := trace }

/-- Noise sets the timer of a Solicit to fire at once. -/
theorem step_noise (deadline : Nat) (trace : Trace) (times : Nat) :
    (loop sampleConfig).step ⟨0,deadline,{ soliciting trace with timeoutTimes := times }⟩
        (.event ⟨0,.datagram noise⟩) =
      some ⟨0,0,soliciting { trace with received := (0, noise) :: trace.received }⟩ := rfl

theorem step_solicit (trace : Trace) :
    ∃ deadline, (loop sampleConfig).step ⟨0,0,soliciting trace⟩ timerFires =
    some ⟨0,deadline,{ soliciting { trace with
      sent := (0, solicitMessage sampleConfig.clientId 0) :: trace.sent }
      with timeoutTimes := 2 }⟩ := ⟨_,rfl⟩

theorem flood (n : Nat) : ∃ trace : Trace, n ≤ countIn 0 trace.sent ∧
    Runs (loop sampleConfig).step (fun _ _ => True) (start 0 0) ⟨0,0,soliciting trace⟩ := by
  induction n with
  | zero => exact ⟨_,Nat.zero_le _,.refl⟩
  | succ n ih =>
    obtain ⟨trace,hle,hrun⟩ := ih
    obtain ⟨deadline,hsolicit⟩ := step_solicit trace
    refine ⟨_,?_,(hrun.tail ⟨_,trivial,hsolicit⟩).tail ⟨_,trivial,step_noise deadline _ 2⟩⟩
    exact Nat.succ_le_succ hle

theorem alwaysPaced_fails : ¬AlwaysPaced := by
  rintro ⟨B,h⟩
  obtain ⟨trace,hmany,hrun⟩ := flood (B + 1)
  have hfew : countIn 0 trace.sent ≤ B := (h sampleConfig 0 0 _ hrun).1 0
  exact absurd hmany (Nat.not_le_of_lt (Nat.lt_succ_of_le hfew))

end Landscape.Dhcp6.PdClient
