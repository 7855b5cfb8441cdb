import Landscape.Dhcp6.PdInstalled

/-! The timer of the client against the end of its lease, and what happens to the prefix then. -/
namespace Landscape.Dhcp6.PdClient
open Timed Run Function

variable {cfg : Config}

structure Sound (c : Clocked Client) : Prop where
  due : c.now ≤ c.deadline
  times : 1 ≤ c.state.timeoutTimes
  bound : ∀ held, c.state.status.held? = some held → held.boundTime ≤ c.now
  inTime : ∀ held, c.state.status.held? = some held →
    c.deadline ≤ held.boundTime + held.iapd.validLifetime

variable {c c' : Clocked Client} {s : Client} {wait now : Nat} {newXid : UInt32} {m : Moment Drawn}
  {p : IAPrefix} {held : Held} {d : Datagram} {iapd : IAPD}

theorem Sound.remaining (h : Sound c) (hheld : c.state.status.held? = some held) :
    c.now + held.remaining c.now = held.boundTime + held.iapd.validLifetime := by
  have hdue := h.due
  have hbound := h.bound held hheld
  have htime := h.inTime held hheld
  unfold Held.remaining
  omega

theorem Sound.set (h : Sound c) (htimes : 1 ≤ s.timeoutTimes)
    (hheld : s.status.held? = c.state.status.held?)
    (hwait : ∀ held, c.state.status.held? = some held → wait ≤ held.remaining c.now) :
    Sound ⟨c.now,c.now + wait,s⟩ := by
  refine ⟨Nat.le_add_right _ _,htimes,?_,?_⟩
  · intro held hs
    exact h.bound held (hheld.symm.trans hs)
  · intro held hs
    have hold := hheld.symm.trans hs
    have hrem := h.remaining hold
    have hle := hwait held hold
    dsimp only
    omega

theorem sound_free (htimes : 1 ≤ s.timeoutTimes) (hfree : s.status.held? = none) :
    Sound ⟨now,now + wait,s⟩ := by
  refine ⟨Nat.le_add_right _ _,htimes,?_,?_⟩ <;>
  · intro held hheld
    rw [hfree] at hheld
    cases hheld

theorem Sound.fired (h : Sound c) (hf : Fired cfg c.now newXid c.state wait s) :
    Sound ⟨c.now,c.now + wait,s⟩ := by
  cases hf with
  | backOff | expired | requestOver => exact sound_free (le_refl 1) rfl
  | request => exact sound_free (Nat.le_add_left _ _) rfl
  | solicit xid hstatus =>
    refine sound_free (Nat.le_add_left _ _) ?_
    change c.state.status.held? = none
    rw [hstatus]
    rfl
  | bound _ _ hstatus _ hwait | waitToRebind _ _ hstatus _ hwait =>
    refine h.set (le_refl 1) (by rw [hstatus]; rfl) ?_
    intro held _
    rw [hwait]
    exact Nat.zero_le _
  | renew _ held _ hstatus _ _ hwait | rebind _ held _ hstatus _ hwait
  | renewOver _ held _ hstatus _ _ hwait =>
    refine h.set (Nat.le_add_left _ _) (by rw [hstatus]; rfl) ?_
    intro held' hheld
    rw [hstatus] at hheld
    cases hheld
    rw [hwait]
    exact min_le_right _ _

theorem timeout_le_remaining {times : Nat} {status : IpV6PdState}
    (h : status.held? = some held) :
    statusTimeoutDuration now status times ≤ held.remaining now := by
  rw [timeout_of_held now h]
  exact min_le_right _ _

theorem Sound.received (h : Sound c) {wait : Option Nat}
    (hr : Received cfg c.now newXid d c.state (s, wait)) :
    Sound ⟨c.now,wait.elim c.deadline (c.now + ·),s⟩ := by
  cases hr with
  | garbled => exact h.set (le_refl 1) rfl fun held hheld => timeout_le_remaining hheld
  | refused => exact ⟨h.due,h.times,h.bound,h.inTime⟩
  | advertise => exact sound_free (le_refl 1) rfl
  | reply _ source held p _ _ htime =>
    refine ⟨Nat.le_add_right _ _,Nat.le_refl 1,?_,?_⟩
    · intro held' hheld
      cases hheld
      exact le_of_eq htime
    · intro held' hheld
      cases hheld
      have hle : statusTimeoutDuration c.now (.bound newXid held) 0 ≤ held.remaining c.now :=
        timeout_le_remaining rfl
      unfold Held.remaining at hle
      change c.now + statusTimeoutDuration c.now (.bound newXid held) 0 ≤ _
      omega

theorem Sound.turn (ht : Turn cfg c m c') (h : c.state.running = true → Sound c) :
    c'.state.running = true → Sound c' := by
  intro hrun
  cases ht with
  | pass d hle =>
    have hsound := h hrun
    refine ⟨hle,hsound.times,?_,hsound.inTime⟩
    intro held hheld
    exact Nat.le_trans (hsound.bound held hheld) (Nat.le_add_right _ _)
  | ended => exact h hrun
  | timer _ _ _ hlive _ hf => exact (h hlive).fired hf
  | datagram _ _ _ _ hlive hr => exact (h hlive).received hr
  | stop => cases hrun

theorem sound_start {random : UInt32} : Sound (start now random) :=
  ⟨le_refl _,le_refl 1,nofun,nofun⟩

theorem sound_of_runs {P : Clocked Client → Moment Drawn → Prop} {random : UInt32}
    (hrun : Runs (loop cfg).step P (start now random) c) : c.state.running = true → Sound c :=
  hrun.invariant (fun c => c.state.running = true → Sound c)
    (fun _ _ _ h _ hs => Sound.turn (turn_of_step hs) h) fun _ => sound_start

def scanStep (acc : Bool × Option IAPrefix) : IapdOption → Bool × Option IAPrefix
  | .statusCode success => (success, acc.2)
  | .iaPrefix data => (acc.1, some data)
  | .other => acc

theorem mem_of_scan {opts : List IapdOption} {acc : Bool × Option IAPrefix}
    (h : (opts.foldl scanStep acc).2 = some p) : .iaPrefix p ∈ opts ∨ acc.2 = some p := by
  induction opts generalizing acc with
  | nil => exact .inr h
  | cons opt opts ih =>
    obtain hmem | hacc := ih h
    · exact .inl (List.mem_cons_of_mem _ hmem)
    · cases opt with
      | iaPrefix data =>
        cases hacc
        exact .inl List.mem_cons_self
      | statusCode success | other => exact .inr hacc

theorem mem_of_usable (h : iapd.usable = some p) : .iaPrefix p ∈ iapd.opts := by
  obtain ⟨-,hscan⟩ := Option.ite_none_right_eq_some.mp h
  have hfold : iapd.scan = iapd.opts.foldl scanStep (true, none) := rfl
  obtain hmem | hnone := mem_of_scan hscan
  · exact hmem
  · cases hnone

theorem getIaPrefix_of_usable (h : iapd.usable = some p) : ∃ q, iapd.getIaPrefix = some q := by
  cases hget : iapd.getIaPrefix with
  | some q => exact ⟨q,rfl⟩
  | none =>
    have hnone := List.findSome?_eq_none_iff.mp hget _ (mem_of_usable h)
    cases hnone

def Moment.isStop : Moment Drawn → Bool
  | .event ⟨_,.stop⟩ => true
  | _ => false

/-- The prefix is withdrawn with all that belongs to it, and the client starts over. -/
structure GivenUp (c c' : Clocked Client) : Prop where
  map : c'.state.installed.prefixMap = none
  address : ∀ a, c.state.currentWanAddr = some a → c'.state.installed.addrs a = false
  linkRoute : c'.state.installed.linkRoute = none
  binding : c'.state.installed.binding = none
  event : c'.state.trace.events = (c.now, .expired) :: c.state.trace.events
  solicits : ∃ xid, c'.state.status = .solicit xid ∧ c'.deadline = c'.now

/-- A stored prefix is of the last accepted reply and within its valid lifetime; unless the client
is stopped or takes another reply, it stays as it is to the end of this time and is given up
then. -/
def LivesAsLeased (cfg : Config) (c : Clocked Client) : Prop :=
  ∀ status, c.state.installed.prefixMap = some status →
    ∃ s iapd earlier p, c.state.trace.accepted = (s, iapd) :: earlier ∧ .iaPrefix p ∈ iapd.opts ∧
      status.actualPrefix = ldiaPrefix s p ∧ c.now ≤ s + secs p.validLifetime.toNat ∧
      ∀ m c', (loop cfg).step c m = some c' → Moment.isStop m = false →
        c'.state.trace.accepted = c.state.trace.accepted →
        c'.state.installed = c.state.installed ∨
          c.now = s + secs p.validLifetime.toNat ∧ GivenUp c c'

/-- The first prefix of an accepted reply is valid as long as the last one. -/
def SameLifetime (cfg : Config) (c : Clocked Client) : Moment Drawn → Prop
  | .event ⟨_,.datagram d⟩ => ∀ r ∈ acceptedReply cfg c.state.status d, ∀ q ∈ r.1.getIaPrefix,
    q.validLifetime = r.2.validLifetime
  | _ => True

instance (cfg : Config) (c : Clocked Client) (m : Moment Drawn) :
    Decidable (SameLifetime cfg c m) :=
  match m with
  | .event ⟨_,.datagram d⟩ =>
    inferInstanceAs (Decidable (∀ r ∈ acceptedReply cfg c.state.status d, _))
  | .event ⟨_,.timer⟩ | .event ⟨_,.stop⟩ | .pass _ => inferInstanceAs (Decidable True)

structure Stored (cfg : Config) (c : Client) : Prop where
  held : ∀ held, c.status.held? = some held → ∃ p earlier, held.iapd.usable = some p ∧
    c.trace.accepted = (held.boundTime, held.iapd) :: earlier ∧
    c.installed.prefixMap = some (.new cfg.expectedPdLen (ldiaPrefix held.boundTime p)) ∧
    held.iapd.validLifetime = secs p.validLifetime.toNat
  free : c.status.held? = none → c.installed.prefixMap = none

theorem Stored.move {c : Client} (h : Stored cfg c) (hheld : s.status.held? = c.status.held?)
    (haccepted : s.trace.accepted = c.trace.accepted) (hinstalled : s.installed = c.installed) :
    Stored cfg s := by
  refine ⟨?_,?_⟩
  · rw [hheld, haccepted, hinstalled]
    exact h.held
  · rw [hheld, hinstalled]
    exact h.free

theorem Stored.fired {c : Client} (h : Stored cfg c) (hf : Fired cfg now newXid c wait s) :
    Stored cfg s := by
  cases hf with
  | expired => exact ⟨nofun,fun _ => rfl⟩
  | solicit => exact h.move rfl rfl rfl
  | backOff _ _ hstatus | request _ _ _ _ _ hstatus | requestOver _ _ _ _ _ hstatus
  | bound _ _ hstatus
  | renew _ _ _ hstatus | renewOver _ _ _ hstatus | waitToRebind _ _ hstatus
  | rebind _ _ _ hstatus =>
    refine h.move ?_ rfl rfl
    rw [hstatus]
    rfl

theorem Stored.received {c : Client} {wait : Option Nat} (h : Stored cfg c)
    (hr : Received cfg now newXid d c (s, wait))
    (hsame : ∀ r ∈ acceptedReply cfg c.status d, ∀ q ∈ r.1.getIaPrefix,
      q.validLifetime = r.2.validLifetime) :
    Stored cfg s := by
  cases hr with
  | garbled | refused => exact h.move rfl rfl rfl
  | advertise _ _ _ _ _ hstatus =>
    refine h.move ?_ rfl rfl
    rw [hstatus]
    rfl
  | reply _ source held p hacc husable htime =>
    refine ⟨?_,nofun⟩
    intro held' hheld
    cases hheld
    obtain ⟨q,hq⟩ := getIaPrefix_of_usable husable
    refine ⟨p,c.trace.accepted,husable,?_,?_,?_⟩
    · rw [htime]
      rfl
    · rw [htime]
      rfl
    · rw [IAPD.validLifetime, hq, Option.elim_some, hsame (held.iapd, p) hacc q hq]

theorem Stored.turn (ht : Turn cfg c m c') (hc : SameLifetime cfg c m)
    (h : c.state.running = true → Stored cfg c.state) :
    c'.state.running = true → Stored cfg c'.state := by
  intro hrun
  cases ht with
  | pass | ended => exact h hrun
  | timer _ _ _ hlive _ hf => exact (h hlive).fired hf
  | datagram _ _ _ _ hlive hr => exact (h hlive).received hr hc
  | stop => cases hrun

theorem map_of_stopped (ht : Turn cfg c m c')
    (h : c.state.running = false → c.state.installed.prefixMap = none) :
    c'.state.running = false → c'.state.installed.prefixMap = none := by
  intro hstop
  cases ht with
  | pass | ended => exact h hstop
  | timer _ _ _ hlive _ hf =>
    cases hf <;> exact absurd (hlive.symm.trans hstop) nofun
  | datagram _ _ _ _ hlive hr =>
    cases hr <;> exact absurd (hlive.symm.trans hstop) nofun
  | stop => rfl

theorem GivenUp.of_turn (ht : Turn cfg c m c') (hs : Sound c) (hstored : Stored cfg c.state)
    (hstop : Moment.isStop m = false) (hsame : c'.state.trace.accepted = c.state.trace.accepted) :
    c'.state.installed = c.state.installed ∨ ∃ held, c.state.status.held? = some held ∧
      c.now = held.boundTime + held.iapd.validLifetime ∧ GivenUp c c' := by
  cases ht with
  | pass | ended => exact .inl rfl
  | stop => cases hstop
  | datagram _ _ _ _ hlive hr =>
    cases hr with
    | garbled | refused | advertise => exact .inl rfl
    | reply =>
      have hlen := congrArg List.length hsame
      exact absurd hlen (Nat.succ_ne_self _)
  | timer _ _ _ hlive _ hf =>
    cases hf with
    | expired held hheld hover hwait =>
      have hrem := hs.remaining hheld
      obtain ⟨p,earlier,-,-,hmap,-⟩ := hstored.held held hheld
      refine .inr ⟨held,hheld,by omega,?_⟩
      refine ⟨rfl,?_,rfl,rfl,?_,_,rfl,?_⟩
      · intro a ha
        change (c.state.currentWanAddr.elim c.state.installed.addrs
          fun addr => update c.state.installed.addrs addr false) a = false
        rw [ha, Option.elim_some, update_self]
      · change (if c.state.installed.prefixMap.isSome = true then _ else _) = _
        rw [if_pos (by rw [hmap]; rfl)]
      · rw [hwait]
        rfl
    | backOff | solicit | request | requestOver | bound | renew | renewOver | waitToRebind
    | rebind =>
      exact .inl rfl

/-- While every accepted reply has prefixes of one valid lifetime, a prefix is stored for exactly
this time. -/
theorem livesAsLeased_of_sameLifetime {now : Nat} {random : UInt32} {c : Clocked Client}
    (hrun : Runs (loop cfg).step (SameLifetime cfg) (start now random) c) :
    LivesAsLeased cfg c := by
  have hstopped :=
    hrun.invariant (fun c => c.state.running = false → c.state.installed.prefixMap = none)
    (fun _ _ _ h _ hs => map_of_stopped (turn_of_step hs) h) nofun
  have hstored := hrun.invariant (fun c => c.state.running = true → Stored cfg c.state)
    (fun _ _ _ h hp hs => Stored.turn (turn_of_step hs) hp h) fun _ => ⟨nofun,fun _ => rfl⟩
  intro status hmap
  cases hlive : c.state.running with
  | false =>
    rw [hstopped hlive] at hmap
    cases hmap
  | true =>
    have hsound := sound_of_runs hrun hlive
    have hst := hstored hlive
    cases hheld : c.state.status.held? with
    | none =>
      rw [hst.free hheld] at hmap
      cases hmap
    | some held =>
      obtain ⟨p,earlier,husable,haccepted,hentry,hvalid⟩ := hst.held held hheld
      rw [hentry] at hmap
      cases hmap
      refine ⟨held.boundTime,held.iapd,earlier,p,haccepted,mem_of_usable husable,rfl,?_,?_⟩
      · rw [← hvalid]
        exact le_trans hsound.due (hsound.inTime held hheld)
      · intro m c' hs hstop hsame
        obtain hkeep | ⟨held',hheld',hnow,hgiven⟩ :=
          GivenUp.of_turn (turn_of_step hs) hsound hst hstop hsame
        · exact .inl hkeep
        · rw [hheld] at hheld'
          cases hheld'
          exact .inr ⟨hvalid ▸ hnow,hgiven⟩

theorem livesAsLeased_sample : ∃ c, Runs (loop sampleConfig).step (SameLifetime sampleConfig)
    (start 0 0) c ∧
    c.state.installed.prefixMap.isSome = true ∧ LivesAsLeased sampleConfig c := by
  refine runs_and (runs_of_decide _ _ (sampleLease [samplePrefix, otherPrefix]) _ _
    (by decide +kernel)) ?_
  exact fun _ hrun _ => livesAsLeased_of_sameLifetime hrun

def AlwaysLivesAsLeased : Prop :=
  ∀ cfg now random c, Runs (loop cfg).step (fun _ _ => True) (start now random) c →
    LivesAsLeased cfg c

def shortPrefix : IAPrefix := ⟨50,50,56,0x20010db8000200000000000000000000⟩

def outlived : List (Moment Drawn) := sampleLease [samplePrefix, shortPrefix] ++ [.pass 60000]

theorem livesAsLeased_fails : ¬AlwaysLivesAsLeased := by
  intro h
  obtain ⟨c,hrun,hmap,hlast,hnow⟩ := runs_of_steps (loop sampleConfig).step (start 0 0) outlived
    (fun c => c.state.installed.prefixMap = some (.new 56 (ldiaPrefix 0 shortPrefix)) ∧
      c.state.trace.accepted.head? = some (0, sampleIapd [samplePrefix, shortPrefix]) ∧
        c.now = 60000) (by decide +kernel)
  obtain ⟨s,iapd,earlier,p,haccepted,-,hpre,hin,-⟩ := h sampleConfig 0 0 c hrun _ hmap
  have hvalid : p.validLifetime = 50 := (congrArg LDIAPrefix.validLifetime hpre).symm
  rw [haccepted] at hlast
  cases hlast
  rw [hnow, hvalid] at hin
  exact absurd hin (by decide)

end Landscape.Dhcp6.PdClient
