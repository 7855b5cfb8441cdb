import Landscape.Nat4.Steps

/-! Ownership is kept by every access: the accesses that move a port. -/
namespace Landscape.Nat4
open Function List
variable {env : Env} {s s' : State} {g g' : Ghost} {logs : Nat → Option Log} {t u : Nat}
  {l l' : Log}

variable {q : PortQueue} {p p' : UInt16} {o : Owner} {proto : UInt8} {v : PortQueueValue}
  {k : MappingKey} {m : Mapping} {q' : PortQueue} {x : Owner} {c : Ct}

theorem setOwner_cases (h : (g.setOwner q p o).owner q' p' = x) :
    (q' = q ∧ p' = p ∧ x = o) ∨ (¬(q' = q ∧ p' = p) ∧ g.owner q' p' = x) := by
  rw [setOwner_owner] at h
  split at h
  · rename_i hp
    exact .inl ⟨hp.1,hp.2,h.symm⟩
  · rename_i hp
    exact .inr ⟨hp,h⟩

theorem owner_of_setOwner (h : (g.setOwner q p o).owner q' p' = x)
    (hx : x ≠ o) : ¬(q' = q ∧ p' = p) ∧ g.owner q' p' = x := by
  rcases setOwner_cases h with ⟨-,-,hxo⟩ | h
  · exact absurd hxo hx
  · exact h

theorem setOwner_of_ne (h : g.owner q' p' = x) (hx : g.owner q p ≠ x) :
    (g.setOwner q p o).owner q' p' = x := by
  rw [setOwner_owner, if_neg]
  · exact h
  · rintro ⟨rfl,rfl⟩
    exact hx h

theorem setOwner_self : (g.setOwner q p o).owner q p = o := by
  simp [setOwner_owner]

theorem Local.dropCallback (h : Local env s g t l) :
    Local env s g t { l with callback := none } := by
  refine { h with callback := ?_ }
  simp

/-- The facts about another handler survive a move of a port it does not depend on. -/
theorem Frame.of_move (hg : g'.owner = (g.setOwner q p o).owner) (hh : g'.holders = g.holders)
    (hn : s.nextId ≤ s'.nextId) (hr : ∀ m, m.id < s.nextId → s'.stateRef m = s.stateRef m)
    (hs : s'.status = s.status) (ht : s'.timer = s.timer) (hb : s'.bpfTimer = s.bpfTimer)
    (hthread : l.item ≠ none → l.mine = none → g.owner q p ≠ .thread u)
    (hmapped : ∀ m, l.found = some m ∨ l.mine = some m → g.owner q p ≠ .mapped m)
    (hcallback : ∀ c, l.callback = some c →
      (∀ m, g.owner q p ≠ .closed c m) ∧ g.owner q p ≠ .port c) : Frame s s' g g' u l := by
  have hkeep : ∀ {q' p' x}, g.owner q' p' = x → g.owner q p ≠ x → g'.owner q' p' = x := by
    intro q' p' x h1 h2
    rw [hg]
    exact setOwner_of_ne h1 h2
  constructor
  case next => exact hn
  case token =>
    intro hi hm q' p' h
    exact hkeep h (hthread hi hm)
  case live =>
    intro m hm hl h
    rcases h with h | h
    · exact .inl (hkeep h (hmapped m hl))
    · exact .inr (by rw [hr m hm]; exact h)
  case nonzero =>
    intro m hm h
    rw [hr m hm]
    exact h
  case pending =>
    intro c _ _ h
    exact ⟨by rw [hs]; exact h,by rw [hh]; exact fun _ => Iff.rfl⟩
  case running =>
    intro c _ _ h
    rw [hb]
    exact h
  case callback =>
    intro c _ hc h
    obtain ⟨h1,h2⟩ := hcallback c hc
    exact h.frame (by rw [hs]) (fun m hm => hkeep hm (h1 m)) (fun hp => hkeep hp h2)
      (by rw [hh]; exact fun _ hm => hm) (by rw [ht]; exact id)

section
variable (h : Base env s g logs)
include h

theorem Base.token_of_thread (ht : logs t = some l) (ho : g.owner q p = .thread t) :
    l.callback = none ∧ l.mine = none ∧
      ∃ proto v, l.item = some (proto, v) ∧ nat4FreePortQueue proto = q ∧ v.port = p := by
  obtain ⟨x,proto,v,hx,hc,hm,hi,hqp⟩ := h.threadOwner q p t ho
  rw [ht] at hx
  cases hx
  exact ⟨hc,hm,proto,v,hi,hqp⟩

theorem Base.thread_unique (ht : logs t = some l) (ho : g.owner q p = .thread t)
    (hi : l.holds proto p') : q = nat4FreePortQueue proto ∧ p = p' := by
  obtain ⟨-,-,proto',v,hv,rfl,rfl⟩ := h.token_of_thread ht ho
  obtain ⟨proto'',v',hv',hq,rfl⟩ := hi
  rw [hv] at hv'
  cases hv'
  exact ⟨hq,rfl⟩

end

/-- A step of the handler `t` by which the port `p` of the queue `q` goes from the owner `X` to `o`.
The entries and the egress map stay; of the mappings only the one that owned the port may change. -/
structure PortMove (env : Env) (s s' : State) (g g' : Ghost) (t : Nat) (l : Log) (q : PortQueue)
    (p : UInt16) (X o : Owner) : Prop where
  source : g.owner q p = X
  owner : g'.owner = (g.setOwner q p o).owner
  nextId : s.nextId ≤ s'.nextId
  timer : s'.timer = s.timer
  status : s'.status = s.status
  bpfTimer : s'.bpfTimer = s.bpfTimer
  egress : s'.egress = s.egress
  -- the port comes from a queue, from the handler or from the entry it acts for
  fromThread : ∀ u, X = .thread u → u = t
  fromCallback : ∀ c, (X = .port c ∨ ∃ m, X = .closed c m) → l.callback = some c
  ingress : ∀ k m, s'.ingress k = some m →
    (s.ingress k = some m ∧ X ≠ .mapped m ∧ ∀ c, X ≠ .closed c m) ∨
      (m.key = k ∧ m.id < s'.nextId ∧ (o = .mapped m ∨ ∃ c, o = .closed c m))
  kept : ∀ m, s.ingress m.key = some m → X ≠ .mapped m → (∀ c, X ≠ .closed c m) →
    s'.ingress m.key = some m
  stateRef : ∀ m, m.id < s.nextId → X ≠ .mapped m → s'.stateRef m = s.stateRef m
  nonzero : ∀ m, X = .mapped m → s.stateRef m ≠ nat4StateMake nat4StateActive 0 →
    s'.stateRef m ≠ nat4StateMake nat4StateActive 0
  holders : ∀ c m, c ∈ g'.holders m ↔ c ∈ g.holders m ∧ X ≠ .mapped m
  lost : ∀ c m, c ∈ g.holders m → X = .mapped m → l.callback = some c ∧ s.status c = .cleanStart
  toThread : ∀ u, o = .thread u → u = t
  toMapped : ∀ m, o = .mapped m → (q = nat4FreePortQueue m.key.l4proto ∧ p = m.key.fromPort ∧
    s'.ingress m.key = some m ∧ nat4StaticPortReserved env m.key.l4proto m.key.fromPort = false) ∧
    ∃ r, s'.stateRef m = nat4StateMake nat4StateActive r ∧ r < 2 ^ 56 ∧ (g'.holders m).card ≤ r
  toClosed : ∀ c m, o = .closed c m → q = nat4FreePortQueue m.key.l4proto ∧ p = m.key.fromPort ∧
    s'.ingress m.key = some m ∧ Belongs c m ∧ c.id < s'.nextId ∧
    s'.stateRef m = nat4StateMake nat4StateClosed 1
  toPort : ∀ c, o = .port c → q = nat4FreePortQueue c.key.l4proto ∧ p = c.key.pairIp.dstPort ∧
    c.id < s'.nextId ∧ c.val.isStatic = false
  queueNodup : ∀ q', ((s'.queue q').map (·.port)).Nodup
  queueOwner : ∀ q', ∀ v ∈ s'.queue q', g'.owner q' v.port = .queue

/-- What such a step leaves to the other handlers, and what the handler `t` records about it. -/
structure MoveLogs (env : Env) (s s' : State) (g' : Ghost) (logs : Nat → Option Log) (t : Nat)
    (l l' : Log) (X : Owner) : Prop where
  live : ∀ u x m, u ≠ t → logs u = some x → x.found = some m ∨ x.mine = some m → X = .mapped m →
    Live s' g' m
  own : Local env s' g' t l'
  callback : l'.callback = l.callback ∨ l'.callback = none
  ct : l'.ct = l.ct ∨ l'.ct = none
  mine : ∀ a b x y c, update logs t (some l') a = some x → update logs t (some l') b = some y →
    x.mine = some c → y.mine = some c → a = b
  held : ∀ k e, s.egress k = some e → EgressHeld s' g' (update logs t (some l')) e
  token : ∀ q' p', g'.owner q' p' = .thread t → HasToken (update logs t (some l')) t q' p'

namespace PortMove
variable {X : Owner} (hm : PortMove env s s' g g' t l q p X o)
include hm

theorem owner_cases (h : g'.owner q' p' = x) :
    (q' = q ∧ p' = p ∧ x = o) ∨ ¬(q' = q ∧ p' = p) ∧ g.owner q' p' = x := by
  rw [hm.owner] at h
  exact setOwner_cases h

theorem owner_keep (h : g.owner q' p' = x) (hne : X ≠ x) : g'.owner q' p' = x := by
  rw [hm.owner]
  exact setOwner_of_ne h (hm.source ▸ hne)

theorem owner_new : g'.owner q p = o := by rw [hm.owner, setOwner_self]

/-- An entry whose callback is not this one keeps the port it owns. -/
theorem ctOwner_keep (hc : l.callback ≠ some c) (ho : ctOwner g c = x)
    (hx : x = .port c ∨ ∃ m, x = .closed c m) : ctOwner g' c = x :=
  hm.owner_keep ho fun hX => hc (hm.fromCallback c (hX ▸ hx))

variable (h : Base env s g logs)
include h

/-- A mapping that owns another port is not the one that owned this port. -/
theorem other (hne : ¬(q' = q ∧ p' = p))
    (ho : g.owner q' p' = .mapped m ∨ ∃ c, g.owner q' p' = .closed c m) :
    X ≠ .mapped m ∧ ∀ c, X ≠ .closed c m := by
  have hat : ∀ {q p}, (g.owner q p = .mapped m ∨ ∃ c, g.owner q p = .closed c m) →
      q = nat4FreePortQueue m.key.l4proto ∧ p = m.key.fromPort := by
    rintro q p (hm | ⟨c,hm⟩)
    · exact ⟨(h.mappedAt q p m hm).1,(h.mappedAt q p m hm).2.1⟩
    · exact ⟨(h.closedAt q p c m hm).1,(h.closedAt q p c m hm).2.1⟩
  have hnot : ¬(g.owner q p = .mapped m ∨ ∃ c, g.owner q p = .closed c m) := by
    intro hX
    obtain ⟨hq,hp⟩ := hat hX
    obtain ⟨hq',hp'⟩ := hat ho
    exact hne ⟨hq'.trans hq.symm,hp'.trans hp.symm⟩
  rw [← hm.source]
  exact ⟨fun hX => hnot (.inl hX),fun c hX => hnot (.inr ⟨c,hX⟩)⟩

theorem ingressOwner (hi : s'.ingress k = some m) :
    mapOwner g' m = .mapped m ∨ ∃ c, mapOwner g' m = .closed c m := by
  rcases hm.ingress k m hi with ⟨hi,h1,h2⟩ | ⟨-,-,ho | ⟨c,ho⟩⟩
  · rcases h.ingressOwner k m hi with ho | ⟨c,ho⟩
    · exact .inl (hm.owner_keep ho h1)
    · exact .inr ⟨c,hm.owner_keep ho (h2 c)⟩
  · obtain ⟨⟨hq,hp,-⟩,-⟩ := hm.toMapped m ho
    exact .inl (by rw [mapOwner, ← hq, ← hp, hm.owner_new, ho])
  · obtain ⟨hq,hp,-⟩ := hm.toClosed c m ho
    exact .inr ⟨c,by rw [mapOwner, ← hq, ← hp, hm.owner_new, ho]⟩

theorem mappedRef (ho : mapOwner g' m = .mapped m) :
    ∃ r, s'.stateRef m = nat4StateMake nat4StateActive r ∧ r < 2 ^ 56 ∧
    (g'.holders m).card ≤ r := by
  rcases hm.owner_cases ho with ⟨-,-,ho⟩ | ⟨hne,ho⟩
  · exact (hm.toMapped m ho.symm).2
  · obtain ⟨r,h1,h2,h3⟩ := h.mappedRef m ho
    have hid := (h.ingressKey _ _ (h.mappedAt _ _ m ho).2.2.1).2
    refine ⟨r,(hm.stateRef m hid (hm.other h hne (.inl ho)).1).trans h1,h2,le_trans
      (Finset.card_le_card ?_) h3⟩
    exact fun c hc => ((hm.holders c m).mp hc).1

theorem closedAt (ho : g'.owner q' p' = .closed c m) : q' = nat4FreePortQueue m.key.l4proto ∧
    p' = m.key.fromPort ∧ s'.ingress m.key = some m ∧ Belongs c m ∧ c.id < s'.nextId ∧
    s'.stateRef m = nat4StateMake nat4StateClosed 1 := by
  rcases hm.owner_cases ho with ⟨rfl,rfl,ho⟩ | ⟨hne,ho⟩
  · exact hm.toClosed c m ho.symm
  · obtain ⟨h1,h2,h3,h4,h5,h6⟩ := h.closedAt q' p' c m ho
    obtain ⟨hx,hx'⟩ := hm.other h hne (.inr ⟨c,ho⟩)
    exact ⟨h1,h2,hm.kept m h3 hx hx',h4,h5.trans_le hm.nextId,
      (hm.stateRef m (h.ingressKey _ _ h3).2 hx).trans h6⟩

/-- The facts about another handler survive. -/
theorem frame (ht : logs t = some l) {y : Log} (hu : u ≠ t) (hy : logs u = some y)
    (hlive : ∀ m, y.found = some m ∨ y.mine = some m → X = .mapped m → Live s' g' m) :
    Frame s s' g g' u y := by
  have hkeep : ∀ {q' p' x}, g.owner q' p' = x → X ≠ x → g'.owner q' p' = x := hm.owner_keep
  have hcb : ∀ c, y.callback = some c → l.callback ≠ some c :=
    fun c hyc hlc => hu (h.callbackUnique u t y l c hy ht hyc hlc)
  refine ⟨hm.nextId,?_,?_,?_,?_,by simp [hm.bpfTimer],?_⟩
  · intro _ _ q' p' ho
    exact hkeep ho fun hX => hu (hm.fromThread u hX)
  · intro m hid hym hl
    by_cases hX : X = .mapped m
    · exact hlive m hym hX
    · exact hl.imp (fun ho => hkeep ho hX) fun hcl => by rwa [hm.stateRef m hid hX]
  · intro m hid hz
    by_cases hX : X = .mapped m
    · exact hm.nonzero m hX hz
    · rwa [hm.stateRef m hid hX]
  · intro c _ _ hp
    refine ⟨by rwa [hm.status],fun m => (hm.holders c m).trans (and_iff_left_of_imp
      fun hc hX => ?_)⟩
    rw [(hm.lost c m hc hX).2] at hp
    cases hp
  · intro c _ hyc hok
    have hnot := hcb c hyc
    refine hok.frame (by rw [hm.status]) ?_ ?_ ?_ (by rw [hm.timer]; exact id)
    · exact fun m ho => hm.ctOwner_keep hnot ho (.inr ⟨m,rfl⟩)
    · exact fun ho => hm.ctOwner_keep hnot ho (.inl rfl)
    · exact fun m hc => (hm.holders c m).mpr ⟨hc,fun hX => hnot (hm.lost c m hc hX).1⟩

end PortMove

section
variable (h : Base env s g logs)
include h

theorem Base.move {X : Owner} (ht : logs t = some l) (hm : PortMove env s s' g g' t l q p X o)
    (hl : MoveLogs env s s' g' logs t l l' X) : Base env s' g' (update logs t (some l')) := by
  constructor
  case ingressKey =>
    intro k m hi
    rcases hm.ingress k m hi with ⟨hi,-⟩ | ⟨hk,hid,-⟩
    · exact ⟨(h.ingressKey k m hi).1,(h.ingressKey k m hi).2.trans_le hm.nextId⟩
    · exact ⟨hk,hid⟩
  case timerKey =>
    intro k c hc
    rw [hm.timer] at hc
    exact ⟨(h.timerKey k c hc).1,(h.timerKey k c hc).2.trans_le hm.nextId⟩
  case egressKey => rw [hm.egress]; exact h.egressKey
  case ingressOwner => exact fun _ _ => hm.ingressOwner h
  case mappedAt =>
    intro q' p' m ho
    rcases hm.owner_cases ho with ⟨rfl,rfl,ho⟩ | ⟨hne,ho⟩
    · exact (hm.toMapped m ho.symm).1
    · obtain ⟨h1,h2,h3,h4⟩ := h.mappedAt q' p' m ho
      obtain ⟨hx,hx'⟩ := hm.other h hne (.inl ho)
      exact ⟨h1,h2,hm.kept m h3 hx hx',h4⟩
  case mappedRef => exact fun _ => hm.mappedRef h
  case closedAt => exact fun _ _ _ _ => hm.closedAt h
  case portAt =>
    intro q' p' c ho
    rcases hm.owner_cases ho with ⟨rfl,rfl,ho⟩ | ⟨-,ho⟩
    · exact hm.toPort c ho.symm
    · obtain ⟨h1,h2,h3,h4⟩ := h.portAt q' p' c ho
      exact ⟨h1,h2,h3.trans_le hm.nextId,h4⟩
  case queueNodup => exact hm.queueNodup
  case queueOwner => exact hm.queueOwner
  case holder =>
    intro c m hc
    obtain ⟨hc,hx⟩ := (hm.holders c m).mp hc
    obtain ⟨h1,h2,h3⟩ := h.holder c m hc
    exact ⟨hm.owner_keep h1 hx,h2,h3.trans_le hm.nextId⟩
  case usable =>
    intro c hu hdyn
    rw [hm.status] at hu
    obtain ⟨m,hc⟩ := h.usable c hu hdyn
    refine ⟨m,(hm.holders c m).mpr ⟨hc,fun hx => ?_⟩⟩
    rw [(hm.lost c m hc hx).2] at hu
    exact absurd hu (by decide)
  case idle =>
    intro c hc hr
    rw [hm.timer] at hc
    rw [hm.bpfTimer] at hr
    have hnot : l.callback ≠ some c := by
      intro hcb
      rw [((h.threads t l ht).callback c hcb).2.1] at hr
      cases hr
    exact (h.idle c hc hr).frame (by rw [hm.status])
      (fun m ho => hm.ctOwner_keep hnot ho (.inr ⟨m,rfl⟩)) fun ho => hm.ctOwner_keep hnot ho
        (.inl rfl)
  case static => rw [hm.timer]; exact h.static
  case threads =>
    refine forall_update hl.own fun u x hu hx => ?_
    exact (h.threads u x hx).frame (hm.frame h ht hu hx fun m => hl.live u x m hu hx)
  case callbackUnique => exact unique_keep h.callbackUnique ht hl.callback
  case ctUnique => exact unique_keep h.ctUnique ht hl.ct
  case mineUnique => exact hl.mine
  case egressHeld => rw [hm.egress]; exact hl.held
  case threadOwner =>
    intro q' p' u hu
    by_cases hut : u = t
    · exact hut ▸ hl.token q' p' (hut ▸ hu)
    · rcases hm.owner_cases hu with ⟨-,-,ho⟩ | ⟨-,hu⟩
      · exact absurd (hm.toThread u ho.symm) hut
      · exact (h.threadOwner q' p' u hu).relog ht (fun h => absurd h hut)

/-- A port goes to or comes from a queue. Its owner before was the queue, this handler, or the
entry whose callback this handler is. -/
theorem Base.handOver (ht : logs t = some l) {queue' : PortQueue → List PortQueueValue}
    (ho : o = .queue ∨ o = .thread t) (hX : g.owner q p = .queue ∨ g.owner q p = .thread t ∨
      ∃ c, l.callback = some c ∧ g.owner q p = .port c)
      (hnd : ∀ q', ((queue' q').map (·.port)).Nodup)
    (hqo : ∀ q', ∀ v ∈ queue' q', (g.setOwner q p o).owner q' v.port = .queue)
    (hcb : l'.callback = l.callback) (hct : l'.ct = l.ct) (hmine : l'.mine = l.mine)
    (heg : l'.eg = l.eg) (hl : Local env { s with queue := queue' } (g.setOwner q p o) t l')
    (hno : ∀ k e, s.egress k = some e → nat4FreePortQueue e.key.l4proto = q → e.val.port = p →
      False) (htok : ∀ q' p', (g.setOwner q p o).owner q' p' = .thread t →
      HasToken (update logs t (some l')) t q' p') :
    Base env { s with queue := queue' } (g.setOwner q p o) (update logs t (some l')) := by
  have hmapped : ∀ m, g.owner q p ≠ .mapped m := by
    intro m hm
    rcases hX with hX | hX | ⟨c,-,hX⟩ <;> simp [hX] at hm
  have hclosed : ∀ c m, g.owner q p ≠ .closed c m := by
    intro c m hm
    rcases hX with hX | hX | ⟨c',-,hX⟩ <;> simp [hX] at hm
  have hnew : (∀ u, o = .thread u → u = t) ∧ (∀ m, o ≠ .mapped m) ∧ (∀ c m, o ≠ .closed c m) ∧
      ∀ c, o ≠ .port c := by
    rcases ho with rfl | rfl <;> simp [eq_comm]
  refine h.move ht (X := g.owner q p)
    { source := rfl, owner := rfl, nextId := le_rfl, timer := rfl, status := rfl, bpfTimer := rfl,
      egress := rfl
      fromThread := ?_
      fromCallback := ?_
      ingress := fun k m hk => .inl ⟨hk,hmapped m,fun c => hclosed c m⟩
      kept := fun _ hk _ _ => hk
      stateRef := fun _ _ _ => rfl
      nonzero := fun m hm => absurd hm (hmapped m)
      holders := fun c m => by simp [hmapped m]
      lost := fun _ m _ hm => absurd hm (hmapped m)
      toThread := hnew.1
      toMapped := fun m hm => absurd hm (hnew.2.1 m)
      toClosed := fun c m hm => absurd hm (hnew.2.2.1 c m)
      toPort := fun c hc => absurd hc (hnew.2.2.2 c)
      queueNodup := hnd
      queueOwner := hqo }
    { live := fun _ _ m _ _ _ hm => absurd hm (hmapped m)
      own := hl
      callback := .inl hcb
      ct := .inl hct
      mine := unique_keep h.mineUnique ht (.inl hmine)
      held := ?_
      token := htok }
  · intro u hu
    rcases hX with hX | hX | ⟨c,-,hX⟩ <;> simp [hX] at hu
    exact hu.symm
  · rintro c (hc | ⟨m,hc⟩)
    · rcases hX with hX | hX | ⟨c',hc',hX⟩
      · simp [hX] at hc
      · simp [hX] at hc
      · rw [hX] at hc
        exact (Owner.port.inj hc) ▸ hc'
    · exact absurd hc (hclosed c m)
  · intro k e he
    refine (h.egressHeld k e he).relog ht ?_ (fun _ _ _ => id) (.inl hcb) (.inl hmine) heg
    rw [setOwner_owner, if_neg]
    rintro ⟨h1,h2⟩
    exact hno k e he h1 h2

theorem base_queuePop (ht : logs t = some l) (ha : Allowed env l (.queuePop proto)) :
    After (Base env) s g logs t l (.queuePop proto) := by
  obtain ⟨hcb,hit⟩ := ha
  have hloc := h.threads t l ht
  have hmine : l.mine = none := by
    cases hm : l.mine with
    | none => rfl
    | some m =>
      obtain ⟨-,p,v,hi,-⟩ := hloc.mineAt m hm
      simp [hit] at hi
  cases hq : s.queue (nat4FreePortQueue proto) with
  | nil =>
    rw [after_queuePop_nil hq]
    exact h.silent ht (.rfl s) rfl
  | cons v rest =>
    rw [after_queuePop_cons hq]
    set q := nat4FreePortQueue proto
    have hX : g.owner q v.port = .queue := h.queueOwner q v (by rw [hq]; simp)
    have hnd : v.port ∉ rest.map (·.port) ∧ (rest.map (·.port)).Nodup := by
      have := h.queueNodup q
      rw [hq, map_cons, nodup_cons] at this
      exact this
    refine h.handOver ht (.inr rfl) (.inl hX) ?_ ?_ rfl rfl rfl rfl ?_ ?_ ?_
    · intro q'
      by_cases hq' : q' = q
      · subst hq'; simpa using hnd.2
      · simpa [hq'] using h.queueNodup q'
    · intro q' v' hv'
      by_cases hq' : q' = q
      · subst hq'
        have hv'' : v' ∈ rest := by simpa using hv'
        have hne : v'.port ≠ v.port := by
          intro heq
          exact hnd.1 (heq ▸ mem_map_of_mem hv'')
        rw [setOwner_owner, if_neg (by simp [hne])]
        exact h.queueOwner q v' (by rw [hq]; simp [hv''])
      · rw [setOwner_owner, if_neg (by simp [hq'])]
        exact h.queueOwner q' v' (by simpa [hq'] using hv')
    · have hF : Frame s { s with queue := update s.queue q rest } g
          (g.setOwner q v.port (.thread t)) t l :=
        Frame.of_move rfl rfl le_rfl (fun _ _ => rfl) rfl rfl rfl (by simp [hX]) (by simp [hX])
          (by simp [hX])
      refine { hloc.frame hF with token := ?_, mineAt := ?_, callback := ?_ }
      · intro p' v' hv' _
        obtain ⟨rfl,rfl⟩ := hv'
        exact setOwner_self
      · simp [record, hmine]
      · simp [record, hcb]
    · intro k e he h1 h2
      have hheld := h.egressHeld k e he
      simp [EgressHeld, h1, h2, hX] at hheld
    · intro q' p' ho
      rcases setOwner_cases ho with ⟨rfl,rfl,-⟩ | ⟨-,ho⟩
      · exact ⟨_,proto,v,update_self _ _ _,hcb,hmine,rfl,rfl,rfl⟩
      · obtain ⟨-,-,proto',v',hi,-⟩ := h.token_of_thread ht ho
        simp [hit] at hi

theorem push_nodup (hX : g.owner q v.port ≠ .queue) (q' : PortQueue) :
    ((update s.queue q (s.queue q ++ [v]) q').map (·.port)).Nodup := by
  by_cases hq' : q' = q
  · subst hq'
    have hnot : v.port ∉ (s.queue q').map (·.port) := by
      intro hmem
      obtain ⟨v',hv',heq⟩ := mem_map.mp hmem
      exact hX (heq ▸ h.queueOwner q' v' hv')
    simpa [nodup_append] using ⟨h.queueNodup q',fun a ha heq => hnot
      (mem_map.mpr ⟨a,ha,heq⟩)⟩
  · simpa [hq'] using h.queueNodup q'

theorem push_owner : ∀ q', ∀ v' ∈ update s.queue q (s.queue q ++ [v]) q',
      (g.setOwner q v.port .queue).owner q' v'.port = .queue := by
  intro q' v' hv'
  rw [setOwner_owner]
  split
  · rfl
  · rename_i hne
    by_cases hq' : q' = q
    · subst hq'
      simp only [update_self, mem_append, mem_singleton] at hv'
      rcases hv' with hv' | rfl
      · exact h.queueOwner q' v' hv'
      · simp at hne
    · exact h.queueOwner q' v' (by simpa [hq'] using hv')

theorem eg_of_thread (ht : logs t = some l) {e : EgressMapping} (he : s.egress k = some e)
    (ho : g.owner (nat4FreePortQueue e.key.l4proto) e.val.port = .thread t) :
    l.eg = some (e.key, e.val.addr) := by
  have hheld := h.egressHeld k e he
  simp only [EgressHeld, ho] at hheld
  obtain ⟨x,hx,-,hxe⟩ := hheld
  rw [ht] at hx
  cases hx
  exact hxe

end

theorem CallbackOk.port_of_push (h : CallbackOk s g c l) (hf : l.Fresh)
    (hst : l.status = some .pushQueue) : ctOwner g c = .port c := by
  have hcur := h.current hf.released hf.gone _ hst (by decide)
  refine (h.idle ?_ hf.gone hf.detached hf.pushed).2 hcur
  simp [hf.released]

theorem base_queuePush (h : Base env s g logs) (ht : logs t = some l)
    (ha : Allowed env l (.queuePush proto v)) :
    After (Base env) s g logs t l (.queuePush proto v) := by
  have hloc := h.threads t l ht
  simp only [Allowed, AllowedPush] at ha
  cases hcb : l.callback with
  | none =>
    simp only [hcb] at ha
    obtain ⟨hm,heg,hi⟩ := ha
    have hX := hloc.holds_owner hi hm
    refine h.handOver ht (.inl rfl) (.inr (.inl hX)) (push_nodup h (by simp [hX])) (push_owner h)
      rfl rfl rfl rfl ?_ ?_ ?_
    · have hl : Local env s g t (record l (.queuePush proto v) true) := by
        refine { hloc with token := ?_, mineAt := ?_, callback := ?_ }
        · simp [record]
        · simp [record, hm]
        · simp [record, hcb]
      exact hl.frame (Frame.of_move rfl rfl le_rfl (fun _ _ => rfl) rfl rfl rfl (by simp [record])
        (by simp [hX]) (by simp [hX]))
    · intro k e he h1 h2
      have heg' := eg_of_thread h ht he (by rw [h1, h2]; exact hX)
      simp [heg] at heg'
    · intro q' p' ho
      obtain ⟨hne,ho⟩ := owner_of_setOwner ho (by simp)
      exact absurd (h.thread_unique ht ho hi) hne
  | some c =>
    simp only [hcb] at ha
    obtain ⟨hf,hst,hq,hp⟩ := ha
    obtain ⟨hid,hrun,hm,hok⟩ := hloc.callback c hcb
    have hX : g.owner (nat4FreePortQueue proto) v.port = .port c := by
      rw [hq, hp]
      exact hok.port_of_push hf hst
    refine h.handOver ht (.inl rfl) (.inr (.inr ⟨c,hcb,hX⟩)) (push_nodup h (by simp [hX]))
      (push_owner h) rfl rfl rfl rfl ?_ ?_ ?_
    · have hl : Local env s g t { l with item := none, callback := none } := by
        refine { hloc with token := ?_, mineAt := ?_, callback := ?_ }
        · simp
        · simp [hm]
        · simp
      refine { hl.frame (Frame.of_move rfl rfl le_rfl (fun _ _ => rfl) rfl rfl rfl (by simp)
        (by simp [hX]) (by simp)) with callback := ?_ }
      intro c' hc'
      obtain rfl := Option.some.inj (hcb.symm.trans hc')
      refine ⟨hid,hrun,hm,?_,hok.current,hok.releasing,?_,?_,?_,hok.gone⟩
      · simp [record, hcb]
      · simp [record, hf.released]
      · simp [record, hst]
      · simp [record, hf.detached]
    · intro k e he h1 h2
      have hheld := h.egressHeld k e he
      simp [EgressHeld, h1, h2, hX] at hheld
    · intro q' p' ho
      obtain ⟨-,ho⟩ := owner_of_setOwner ho (by simp)
      have hc := (h.token_of_thread ht ho).1
      simp [hcb] at hc

theorem ingress_none_of_thread (h : Base env s g logs)
    (ho : g.owner (nat4FreePortQueue k.l4proto) k.fromPort = .thread t) : s.ingress k = none := by
  cases hk : s.ingress k with
  | none => rfl
  | some m =>
    have hkey := (h.ingressKey k m hk).1
    rcases h.ingressOwner k m hk with hm | ⟨c,hm⟩ <;> simp [mapOwner, hkey, ho] at hm

theorem exec_ingressInsert (v : MappingValue) (hk : s.ingress k = none) :
    exec (.ingressInsert k v) s = (some ⟨s.nextId,k,v⟩, { s with
      nextId := s.nextId + 1
      ingress := update s.ingress k (some ⟨s.nextId,k,v⟩)
      stateRef := update s.stateRef ⟨s.nextId,k,v⟩ v.stateRef
      mappingReuse := update s.mappingReuse ⟨s.nextId,k,v⟩ v.isAllowReuse }) := by
  simp [exec, State.insertIngress, hk]

section IngressInsert
variable {v : MappingValue}

/-- What stands in the maps is older than the mapping the next insertion makes. -/
theorem Mapping.ne_next (hid : m.id < s.nextId) : m ≠ ⟨s.nextId,k,v⟩ := by
  rintro rfl
  exact lt_irrefl _ hid

variable (h : Base env s g logs) (ht : logs t = some l) (ha : Allowed env l (.ingressInsert k v))
include h ht ha

theorem Base.source_ingressInsert :
    g.owner (nat4FreePortQueue k.l4proto) k.fromPort = .thread t ∧ s.ingress k = none := by
  obtain ⟨-,hmine,-,-,-,-,-,hi⟩ := ha
  have hX := (h.threads t l ht).holds_owner hi hmine
  exact ⟨hX,ingress_none_of_thread h hX⟩

/-- The port goes from the handler to the mapping it makes, which nothing refers to. -/
theorem Base.move_ingressInsert :
    PortMove env s (exec (.ingressInsert k v) s).2 g (ghostNext g s t l (.ingressInsert k v)) t l
      (nat4FreePortQueue k.l4proto) k.fromPort (.thread t) (.mapped ⟨s.nextId,k,v⟩) := by
  obtain ⟨hX,hk⟩ := h.source_ingressInsert ht ha
  obtain ⟨-,-,-,hsr,hres,-⟩ := ha
  have hholders : g.holders ⟨s.nextId,k,v⟩ = ∅ := by
    refine Finset.eq_empty_of_forall_notMem ?_
    intro c hc
    have hm : g.owner (nat4FreePortQueue k.l4proto) k.fromPort = .mapped ⟨s.nextId,k,v⟩ :=
      (h.holder c _ hc).1
    simp [hX] at hm
  rw [exec_ingressInsert v hk]
  refine
    { source := hX, owner := rfl, nextId := Nat.le_succ _, timer := rfl, status := rfl,
      bpfTimer := rfl, egress := rfl
      fromThread := by simp [eq_comm]
      fromCallback := by simp
      ingress := ?_
      kept := ?_
      stateRef := ?_
      nonzero := by simp
      holders := by simp [ghostNext]
      lost := by simp
      toThread := by simp
      toMapped := ?_
      toClosed := by simp
      toPort := by simp
      queueNodup := h.queueNodup
      queueOwner := fun q v hv => setOwner_of_ne (h.queueOwner q v hv) (by simp [hX]) }
  · intro k' m' hm'
    rcases Table.update_eq_some hm' with ⟨rfl,⟨⟩⟩ | ⟨-,hm'⟩
    · exact .inr ⟨rfl,Nat.lt_succ_self _,.inl rfl⟩
    · exact .inl ⟨hm',by simp,by simp⟩
  · intro m' hm' _ _
    have hkk : m'.key ≠ k := by
      intro heq
      rw [heq, hk] at hm'
      cases hm'
    simpa [hkk] using hm'
  · intro m' hm' _
    simp [Mapping.ne_next hm']
  · rintro m' ⟨⟩
    exact ⟨⟨rfl,rfl,by simp,hres⟩,0,by simp [hsr],by decide,by simp [ghostNext, hholders]⟩

theorem Base.local_ingressInsert :
    Local env (exec (.ingressInsert k v) s).2 (ghostNext g s t l (.ingressInsert k v)) t
      (record l (.ingressInsert k v) (some ⟨s.nextId,k,v⟩)) := by
  obtain ⟨hX,hk⟩ := h.source_ingressInsert ht ha
  obtain ⟨hcb,hmine,-,-,-,-,-,hi⟩ := ha
  have hown : Local env (exec (.ingressInsert k v) s).2 (ghostNext g s t l (.ingressInsert k v)) t
      { l with item := none } := by
    have hl : Local env s g t { l with item := none } := by
      exact { h.threads t l ht with
        token := by simp, mineAt := by simp [hmine], callback := by simp [hcb] }
    rw [exec_ingressInsert v hk]
    refine hl.frame (Frame.of_move rfl rfl (Nat.le_succ _) ?_ rfl rfl rfl (by simp) (by simp [hX])
      (by simp [hX]))
    exact fun m' hm' => update_of_ne (Mapping.ne_next hm') _ _
  rw [exec_ingressInsert v hk] at hown ⊢
  refine { hown with token := ?_, mineAt := ?_, mineLive := ?_, nonzero := ?_, callback := ?_ }
  · simp [record]
  · rintro m' ⟨⟩
    obtain ⟨p,v',hv',h1,h2⟩ := hi
    exact ⟨Nat.lt_succ_self _,p,v',hv',h1,h2⟩
  · rintro m' ⟨⟩
    exact .inl setOwner_self
  · simp [record]
  · simp [record, hcb]

/-- The egress entry of the port is the one the handler inserted before. -/
theorem Base.egress_ingressInsert {k' : MappingKey} {e : EgressMapping}
    (he : s.egress k' = some e) :
    EgressHeld (exec (.ingressInsert k v) s).2 (ghostNext g s t l (.ingressInsert k v))
      (update logs t (some (record l (.ingressInsert k v) (some ⟨s.nextId,k,v⟩)))) e := by
  obtain ⟨hX,hk⟩ := h.source_ingressInsert ht ha
  obtain ⟨-,-,-,-,-,-,heg,-⟩ := ha
  rw [exec_ingressInsert v hk]
  by_cases hp : nat4FreePortQueue e.key.l4proto = nat4FreePortQueue k.l4proto ∧
    e.val.port = k.fromPort
  · have heg' := eg_of_thread h ht he (by rw [hp.1, hp.2]; exact hX)
    have ho : (ghostNext g s t l (.ingressInsert k v)).owner (nat4FreePortQueue e.key.l4proto)
        e.val.port = .mapped ⟨s.nextId,k,v⟩ := by
      rw [hp.1, hp.2]
      exact setOwner_self
    simp only [EgressHeld, ho]
    rw [heg, Option.some.injEq, Prod.mk.injEq] at heg'
    refine ⟨heg'.1.symm,heg'.2.symm,forall_update (P := fun _ x => x.mine = some ⟨s.nextId,k,v⟩ →
      x.eg = some (e.key, e.val.addr)) ?_ ?_⟩
    · intro _
      rw [← heg'.1, ← heg'.2]
      exact heg
    · intro u x hu hx hxm
      exact absurd rfl (Mapping.ne_next ((h.threads u x hx).mineAt _ hxm).1)
  · refine (h.egressHeld k' e he).step ht ?_ (fun _ _ _ => id) (fun _ h1 h2 => ⟨h1,h2⟩) ?_
      (fun _ _ _ => id)
    · exact (setOwner_owner g _ _ _ _ _).trans (if_neg hp)
    · rintro m' ho _ ⟨⟩
      have hid := (h.ingressKey _ _ (h.mappedAt _ _ _ ho).2.2.1).2
      exact absurd rfl (Mapping.ne_next hid)

theorem base_ingressInsert : After (Base env) s g logs t l (.ingressInsert k v) := by
  have hr : (exec (.ingressInsert k v) s).1 = some ⟨s.nextId,k,v⟩ := by
    rw [exec_ingressInsert v (h.source_ingressInsert ht ha).2]
  unfold After
  rw [hr]
  refine h.move ht (h.move_ingressInsert ht ha)
    { live := by simp
      own := h.local_ingressInsert ht ha
      callback := .inl rfl
      ct := .inl rfl
      mine := unique_update h.mineUnique ?_
      held := fun _ _ he => h.egress_ingressInsert ht ha he
      token := ?_ }
  · rintro c u x ⟨⟩ hu hx hxm
    exact Mapping.ne_next ((h.threads u x hx).mineAt _ hxm).1 rfl
  · intro q' p' hu
    obtain ⟨hne,hu⟩ := owner_of_setOwner hu (by simp)
    exact absurd (h.thread_unique ht hu ha.2.2.2.2.2.2.2) hne

end IngressInsert

/-- A mapping without references is deleted by the handler that made it, or a closed one by
the callback of the entry that closed it. The port goes to whoever deleted it. -/
theorem Base.detach (h : Base env s g logs) (ht : logs t = some l) (hi : s.ingress m.key = some m)
    (hh : g.holders m = ∅) (ho : (o = .thread t ∧ mapOwner g m = .mapped m) ∨
      ∃ c, l.callback = some c ∧ o = .port c ∧ mapOwner g m = .closed c m)
    (hother : ∀ u x, u ≠ t → logs u = some x → x.found = some m ∨ x.mine = some m →
      mapOwner g m ≠ .mapped m) (hq : Quiet l l')
    (hl : Local env { s with ingress := update s.ingress m.key none }
      (g.setOwner (nat4FreePortQueue m.key.l4proto) m.key.fromPort o) t l')
    (heg : ∀ k e, s.egress k = some e →
      EgressHeld s (g.setOwner (nat4FreePortQueue m.key.l4proto) m.key.fromPort o)
        (update logs t (some l')) e) (htok : o = .thread t → HasToken (update logs t (some l')) t
      (nat4FreePortQueue m.key.l4proto) m.key.fromPort) :
    Base env { s with ingress := update s.ingress m.key none }
      (g.setOwner (nat4FreePortQueue m.key.l4proto) m.key.fromPort o)
      (update logs t (some l')) := by
  have hX : mapOwner g m = .mapped m ∨ ∃ c, l.callback = some c ∧ mapOwner g m = .closed c m := by
    rcases ho with ⟨-,ho⟩ | ⟨c,hc,-,ho⟩
    · exact .inl ho
    · exact .inr ⟨c,hc,ho⟩
  have hne : ∀ m', m' ≠ m → mapOwner g m ≠ .mapped m' ∧ ∀ c, mapOwner g m ≠ .closed c m' := by
    intro m' hne
    rcases hX with hX | ⟨c,-,hX⟩ <;> simp [hX, hne.symm]
  have hnew : (∀ u, o = .thread u → u = t) ∧ (∀ m, o ≠ .mapped m) ∧ ∀ c m, o ≠ .closed c m := by
    rcases ho with ⟨rfl,-⟩ | ⟨c,-,rfl,-⟩ <;> simp [eq_comm]
  have hempty : ∀ c m', c ∈ g.holders m' → m' ≠ m := by
    rintro c m' hc rfl
    simp [hh] at hc
  have hgone : mapOwner g m ≠ .queue ∧ (∀ u, mapOwner g m ≠ .thread u) ∧
      ∀ c, mapOwner g m ≠ .port c := by
    rcases hX with hX | ⟨c,-,hX⟩ <;> simp [hX]
  refine h.move ht (X := mapOwner g m)
    { source := rfl, owner := rfl, nextId := le_rfl, timer := rfl, status := rfl, bpfTimer := rfl,
      egress := rfl
      fromThread := fun u hu => absurd hu (hgone.2.1 u)
      fromCallback := ?_
      ingress := ?_
      kept := ?_
      stateRef := fun _ _ _ => rfl
      nonzero := fun _ _ => id
      holders := ?_
      lost := fun c m' hc hm' => absurd hm' (hne m' (hempty c m' hc)).1
      toThread := hnew.1
      toMapped := fun m' hm' => absurd hm' (hnew.2.1 m')
      toClosed := fun c m' hm' => absurd hm' (hnew.2.2 c m')
      toPort := ?_
      queueNodup := h.queueNodup
      queueOwner := fun q v hv => setOwner_of_ne (h.queueOwner q v hv) hgone.1 }
    { live := ?_
      own := hl
      callback := hq.callback
      ct := hq.ct
      mine := unique_keep h.mineUnique ht hq.mine
      held := heg
      token := ?_ }
  · rintro c (hc | ⟨m',hc⟩)
    · exact absurd hc (hgone.2.2 c)
    · rcases hX with hX | ⟨c',hc',hX⟩ <;> rw [hX] at hc <;> cases hc
      exact hc'
  · intro k' m' hm'
    obtain ⟨hk,hold⟩ := Table.of_update_none hm'
    refine .inl ⟨hold,hne m' ?_⟩
    rintro rfl
    exact hk (h.ingressKey k' m' hold).1.symm
  · intro m' hm' h1 h2
    have hk : m'.key ≠ m.key := by
      intro hk
      rw [hk, hi] at hm'
      cases hm'
      rcases hX with hX | ⟨c,-,hX⟩
      · exact h1 hX
      · exact h2 c hX
    simpa [hk] using hm'
  · intro c m'
    exact ⟨fun hc => ⟨hc,(hne m' (hempty c m' hc)).1⟩,And.left⟩
  · rintro c rfl
    rcases ho with ⟨ho,-⟩ | ⟨c',-,ho,hX'⟩ <;> cases ho
    obtain ⟨-,-,-,hb,hid,-⟩ := h.closedAt _ _ c m hX'
    rw [hb.key]
    exact ⟨rfl,rfl,hid,hb.dynamic⟩
  · intro u x m' hu hx hm' hmp
    by_cases hmm : m' = m
    · subst hmm
      exact absurd hmp (hother u x hu hx hm')
    · exact absurd hmp (hne m' hmm).1
  · intro q p hu
    rcases setOwner_cases hu with ⟨rfl,rfl,hou⟩ | ⟨-,hu⟩
    · exact htok hou.symm
    · exact (h.threadOwner q p t hu).quiet ht hq

/-- When a handler may delete the mapping it made: the mapping is still in the map, without a
reference, and no other handler in flight has looked it up. -/
def RollbackOk (s : State) (logs : Nat → Option Log) (t : Nat) (m : Mapping) : Prop :=
  s.ingress m.key = some m ∧ s.stateRef m = nat4StateMake nat4StateActive 0 ∧
    ∀ u x, u ≠ t → logs u = some x → x.found ≠ some m

theorem nat4StateMake_active_zero_ne :
    nat4StateMake nat4StateActive 0 ≠ nat4StateMake nat4StateClosed 1 := by decide

theorem Base.mapped_of_zero (h : Base env s g logs) (hi : s.ingress m.key = some m)
    (hz : s.stateRef m = nat4StateMake nat4StateActive 0) :
    mapOwner g m = .mapped m ∧ g.holders m = ∅ := by
  have ho : mapOwner g m = .mapped m := by
    rcases h.ingressOwner m.key m hi with ho | ⟨c,ho⟩
    · exact ho
    · have hcl := (h.closedAt _ _ c m ho).2.2.2.2.2
      rw [hz] at hcl
      exact absurd hcl nat4StateMake_active_zero_ne
  obtain ⟨r,hr,hlt,hcard⟩ := h.mappedRef m ho
  rw [hz, nat4StateMake_eq _ (by decide), nat4StateMake_eq _ hlt] at hr
  exact ⟨ho,Finset.card_eq_zero.mp (by omega)⟩

theorem base_ingressDelete_packet (h : Base env s g logs) (ht : logs t = some l)
    (hcb : l.callback = none) (hct : l.ct = none) (hm : l.mine = some m)
    (hr : RollbackOk s logs t m) :
    After (Base env) s g logs t l (.ingressDelete m.key) := by
  obtain ⟨hi,hz,hfound⟩ := hr
  obtain ⟨ho,hh⟩ := h.mapped_of_zero hi hz
  have hloc := h.threads t l ht
  rw [after_ingressDelete_packet hcb]
  refine h.detach ht hi hh (.inl ⟨rfl,ho⟩) ?_ ⟨.inl rfl,.inl rfl,.inr rfl,rfl⟩ ?_ ?_ ?_
  · rintro u x hu hx (hxf | hxm)
    · exact absurd hxf (hfound u x hu hx)
    · exact absurd (h.mineUnique u t x l m hx ht hxm hm) hu
  · constructor
    case seen => exact hloc.seen
    case token =>
      intro p v hv _
      obtain ⟨-,p',v',hv',h1,h2⟩ := hloc.mineAt m hm
      have heq := hv.symm.trans hv'
      cases heq
      rw [h1, h2]
      exact setOwner_self
    all_goals simp [hct, hcb]
  · intro k e he
    by_cases hp : nat4FreePortQueue e.key.l4proto = nat4FreePortQueue m.key.l4proto ∧
        e.val.port = m.key.fromPort
    · have hheld := h.egressHeld k e he
      have ho' : g.owner (nat4FreePortQueue m.key.l4proto) m.key.fromPort = .mapped m := ho
      simp only [EgressHeld, hp.1, hp.2, ho'] at hheld
      simp only [EgressHeld, hp.1, hp.2, setOwner_self]
      exact ⟨_,update_self _ _ _,hcb,hheld.2.2 t l ht hm⟩
    · exact (h.egressHeld k e he).relog ht ((setOwner_owner g _ _ _ _ _).trans (if_neg hp))
        (fun _ _ _ => id) (.inl rfl) (.inr rfl) rfl
  · intro _
    obtain ⟨-,p',v',hv',h1,h2⟩ := hloc.mineAt m hm
    exact ⟨_,p',v',update_self _ _ _,hcb,rfl,hv',h1,h2⟩

theorem base_ingressDelete_callback (h : Base env s g logs) (ht : logs t = some l)
    (hcb : l.callback = some c) (hf : l.Fresh) (hst : l.status = some .deleteIngress)
    (hfound : l.found.isSome) :
    After (Base env) s g logs t l (.ingressDelete (ctMapKey c.key)) := by
  obtain ⟨m,hm⟩ := Option.isSome_iff_exists.mp hfound
  have hloc := h.threads t l ht
  obtain ⟨hid,hrun,hmine,hok⟩ := hloc.callback c hcb
  have hcur := hok.current hf.released hf.gone _ hst (by decide)
  have hco := hok.closing hf.released hst hf.detached hf.gone m hm
  have hb := (h.closedAt _ _ c m hco).2.2.2.1
  have hX : mapOwner g m = .closed c m := (hb.owner g).trans hco
  have hi : s.ingress m.key = some m := (h.closedAt _ _ c m hco).2.2.1
  have hh : g.holders m = ∅ := by
    refine Finset.eq_empty_of_forall_notMem ?_
    intro c' hc'
    have hm' := (h.holder c' m hc').1
    simp [hX] at hm'
  rw [after_ingressDelete_callback hcb, ← hb.key]
  refine h.detach ht hi hh (.inr ⟨c,hcb,rfl,hX⟩) ?_ ⟨.inl rfl,.inl rfl,.inl rfl,rfl⟩ ?_ ?_
    (by simp)
  · intro u x _ _ _
    simp [hX]
  · have hX' : g.owner (nat4FreePortQueue m.key.l4proto) m.key.fromPort = .closed c m := hX
    refine { hloc.dropCallback.frame (Frame.of_move rfl rfl le_rfl (fun _ _ => rfl) rfl rfl rfl
      (by simp [hX'])
      (by simp [hX']) (by simp)) with callback := ?_ }
    intro c' hc'
    obtain rfl := Option.some.inj (hcb.symm.trans hc')
    refine ⟨hid,hrun,hmine,?_,hok.current,hok.releasing,?_,?_,?_,hok.gone⟩
    · simp
    · simp [hf.released]
    · simp
    · intro _ _
      rw [← hb.owner]
      exact setOwner_self
  · intro k e he
    have hheld := h.egressHeld k e he
    refine hheld.relog ht ?_ (fun _ _ _ => id) (.inl rfl) (.inl rfl) rfl
    rw [setOwner_owner, if_neg]
    rintro ⟨h1,h2⟩
    have hX' : g.owner (nat4FreePortQueue m.key.l4proto) m.key.fromPort = .closed c m := hX
    simp [EgressHeld, h1, h2, hX', hcur] at hheld

end Landscape.Nat4
