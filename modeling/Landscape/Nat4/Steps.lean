import Landscape.Nat4.Contract

/-! What a step of one handler leaves alone in the facts about the others. Ownership is kept by the
accesses that read, or that write fields nobody's ownership depends on. -/
namespace Landscape.Nat4
open Function Option
variable {env : Env} {s s' : State} {g g' : Ghost} {logs : Nat → Option Log} {t u : Nat}
  {l l' : Log} {β : Type} {q : PortQueue} {p : UInt16}

theorem record_egressLookup (k : MappingKey) (r : Option EgressMapping) :
    record l (.egressLookup k) r = l ∨ ∃ e, record l (.egressLookup k) r = { l with eg := e } := by
  simp only [record, Log.onEgressLookup]
  split
  · exact .inl rfl
  · split
    · exact .inl rfl
    · exact .inr ⟨none,rfl⟩

theorem forall_update {P : Nat → Log → Prop} (hl : P t l')
    (ho : ∀ u x, u ≠ t → logs u = some x → P u x) :
    ∀ u x, update logs t (some l') u = some x → P u x := by
  intro u x hx
  rcases Table.update_eq_some hx with ⟨rfl,⟨⟩⟩ | ⟨hu,hx⟩
  · exact hl
  · exact ho u x hu hx

/-- A field that is unique to its handler stays so if the new value is no other handler's. -/
theorem unique_update {f : Log → Option β}
    (h : ∀ t u l l' c, logs t = some l → logs u = some l' → f l = some c → f l' = some c → t = u)
    (hf : ∀ c u x, f l' = some c → u ≠ t → logs u = some x → f x ≠ some c) :
    ∀ a b x y c, update logs t (some l') a = some x → update logs t (some l') b = some y →
      f x = some c → f y = some c → a = b := by
  intro a b x y c hx hy hxc hyc
  rcases Table.update_eq_some hx with ⟨ha,⟨⟩⟩ | ⟨ha,hx⟩ <;>
    rcases Table.update_eq_some hy with ⟨hb,⟨⟩⟩ | ⟨hb,hy⟩
  · exact ha.trans hb.symm
  · exact absurd hyc (hf c b y hxc hb hy)
  · exact absurd hxc (hf c a x hyc ha hx)
  · exact h a b x y c hx hy hxc hyc

theorem unique_keep {f : Log → Option β}
    (h : ∀ t u l l' c, logs t = some l → logs u = some l' → f l = some c → f l' = some c → t = u)
    (ht : logs t = some l) (hf : f l' = f l ∨ f l' = none) :
    ∀ a b x y c, update logs t (some l') a = some x → update logs t (some l') b = some y →
      f x = some c → f y = some c → a = b := by
  refine unique_update h ?_
  intro c u x hc hu hx hxc
  rcases hf with hf | hf
  · exact hu (h u t x l c hx ht hxc (hf ▸ hc))
  · simp [hf] at hc

theorem HasToken.relog (h : HasToken logs u q p)
    (ht : logs t = some l) (hl : u = t → l.callback = none → l.mine = none →
      l'.callback = none ∧ l'.mine = none ∧ l'.item = l.item) :
    HasToken (update logs t (some l')) u q p := by
  obtain ⟨x,proto,v,hx,hc,hm,hi,hqp⟩ := h
  by_cases hu : u = t
  · subst hu
    rw [ht] at hx
    cases hx
    obtain ⟨h1,h2,h3⟩ := hl rfl hc hm
    exact ⟨l',proto,v,by simp,h1,h2,h3.trans hi,hqp⟩
  · exact ⟨x,proto,v,by simpa [hu] using hx,hc,hm,hi,hqp⟩

theorem Idle.frame {c : Ct} (h : Idle s g c) (hs : s'.status c = s.status c)
    (hc : ∀ m, ctOwner g c = .closed c m → ctOwner g' c = .closed c m)
    (hp : ctOwner g c = .port c → ctOwner g' c = .port c) : Idle s' g' c := by
  refine ⟨?_,?_⟩
  · intro hst
    rw [hs] at hst
    obtain ⟨m,hm⟩ := h.1 hst
    exact ⟨m,hc m hm⟩
  · intro hst
    rw [hs] at hst
    exact hp (h.2 hst)

theorem CallbackOk.frame {c : Ct} (h : CallbackOk s g c l) (hs : s'.status c = s.status c)
    (hc : ∀ m, ctOwner g c = .closed c m → ctOwner g' c = .closed c m)
    (hp : ctOwner g c = .port c → ctOwner g' c = .port c)
    (hh : ∀ m, c ∈ g.holders m → c ∈ g'.holders m)
    (ht : s'.timer c.key = some c → s.timer c.key = some c) : CallbackOk s' g' c l where
  idle h1 h2 h3 h4 := (h.idle h1 h2 h3 h4).frame hs hc hp
  current h1 h2 st h3 h4 := hs.trans (h.current h1 h2 st h3 h4)
  releasing h1 := hs.trans (h.releasing h1)
  holding h1 h2 h3 h4 h5 := by
    obtain ⟨m,hm,hf⟩ := h.holding h1 h2 h3 h4 h5
    exact ⟨m,hh m hm,hf⟩
  closing h1 h2 h3 h4 m hm := hc m (h.closing h1 h2 h3 h4 m hm)
  detached h1 h2 := hp (h.detached h1 h2)
  gone h1 h2 := h.gone h1 (ht h2)

structure Frame (s s' : State) (g g' : Ghost) (u : Nat) (l : Log) : Prop where
  next : s.nextId ≤ s'.nextId
  token : l.item ≠ none → l.mine = none → ∀ q p, g.owner q p = .thread u →
    g'.owner q p = .thread u
  live : ∀ m, m.id < s.nextId → l.found = some m ∨ l.mine = some m → Live s g m → Live s' g' m
  nonzero : ∀ m, m.id < s.nextId → s.stateRef m ≠ nat4StateMake nat4StateActive 0 →
    s'.stateRef m ≠ nat4StateMake nat4StateActive 0
  pending : ∀ c, c.id < s.nextId → l.ct = some c → s.status c = .pendingRef →
    s'.status c = .pendingRef ∧ ∀ m, c ∈ g'.holders m ↔ c ∈ g.holders m
  running : ∀ c, c.id < s.nextId → l.callback = some c → (s.bpfTimer c).running = true →
    (s'.bpfTimer c).running = true
  callback : ∀ c, c.id < s.nextId → l.callback = some c → CallbackOk s g c l →
    CallbackOk s' g' c l

theorem Local.frame (h : Local env s g u l) (F : Frame s s' g g' u l) : Local env s' g' u l where
  token p v h1 h2 := F.token (by simp [h1]) h2 _ _ (h.token p v h1 h2)
  mineAt m hm := by
    obtain ⟨h1,h2⟩ := h.mineAt m hm
    exact ⟨h1.trans_le F.next,h2⟩
  mineLive m hm := F.live m (h.mineAt m hm).1 (.inr hm) (h.mineLive m hm)
  nonzero m hm hz := F.nonzero m (h.mineAt m hm).1 (h.nonzero m hm hz)
  found m hm := by
    obtain ⟨h1,h2⟩ := h.found m hm
    exact ⟨h1.trans_le F.next,F.live m h1 (.inl hm) h2⟩
  ct c hc := by
    obtain ⟨h1,h2,m,h3,h4,h5,h6⟩ := h.ct c hc
    obtain ⟨h7,h8⟩ := F.pending c h1 hc h2
    exact ⟨h1.trans_le F.next,h7,m,h3,h4,fun hx => (h8 m).2 (h5 hx),
      fun hx m' hm' => h6 hx m' ((h8 m').1 hm')⟩
  seen := h.seen
  callback c hc := by
    obtain ⟨h1,h2,h3,h4⟩ := h.callback c hc
    exact ⟨h1.trans_le F.next,F.running c h1 hc h2,h3,F.callback c h1 hc h4⟩

theorem Frame.of_same (hn : s.nextId ≤ s'.nextId) (hr : s'.stateRef = s.stateRef)
    (hs : s'.status = s.status) (ht : ∀ k c, s'.timer k = some c → s.timer k = some c)
    (hb : ∀ c, l.callback = some c → (s.bpfTimer c).running = true →
      (s'.bpfTimer c).running = true) : Frame s s' g g u l where
  next := hn
  token _ _ _ _ h := h
  live m _ _ h := by simpa [Live, hr] using h
  nonzero m _ h := by simpa [hr] using h
  pending c _ _ h := ⟨by rw [hs]; exact h,fun _ => Iff.rfl⟩
  running c _ hc h := hb c hc h
  callback c _ _ h := h.frame (by rw [hs]) (fun _ hm => hm) id (fun _ hm => hm) (ht _ _)

structure SameMaps (s s' : State) : Prop where
  nextId : s.nextId ≤ s'.nextId
  ingress : s'.ingress = s.ingress
  timer : s'.timer = s.timer
  queue : s'.queue = s.queue
  stateRef : s'.stateRef = s.stateRef
  status : s'.status = s.status
  running : ∀ c, (s'.bpfTimer c).running = (s.bpfTimer c).running

theorem SameMaps.rfl (s : State) : SameMaps s s :=
  ⟨le_rfl,.refl _,.refl _,.refl _,.refl _,.refl _,fun _ => .refl _⟩

structure Shrinks (s s' : State) : Prop where
  nextId : s.nextId ≤ s'.nextId
  ingress : s'.ingress = s.ingress
  timer : ∀ k c, s'.timer k = some c → s.timer k = some c
  queue : s'.queue = s.queue
  stateRef : s'.stateRef = s.stateRef
  status : s'.status = s.status
  running : ∀ c, (s'.bpfTimer c).running = (s.bpfTimer c).running

theorem SameMaps.shrinks (E : SameMaps s s') : Shrinks s s' :=
  { E with timer := fun k c hc => by rwa [E.timer] at hc }

theorem Shrinks.rfl (s : State) : Shrinks s s := (SameMaps.rfl s).shrinks

structure Quiet (l l' : Log) : Prop where
  callback : l'.callback = l.callback ∨ l'.callback = none
  ct : l'.ct = l.ct ∨ l'.ct = none
  mine : l'.mine = l.mine ∨ l'.mine = none
  item : l'.item = l.item

theorem HasToken.quiet (h : HasToken logs u q p)
    (ht : logs t = some l) (hq : Quiet l l') : HasToken (update logs t (some l')) u q p := by
  refine h.relog ht ?_
  intro _ hc hm
  refine ⟨?_,?_,hq.item⟩
  · rcases hq.callback with hc' | hc'
    · exact hc'.trans hc
    · exact hc'
  · rcases hq.mine with hm' | hm'
    · exact hm'.trans hm
    · exact hm'

variable {e : EgressMapping} {k : MappingKey} {m : Mapping} {c : Ct}

section
variable (h : EgressHeld s g logs e) (ht : logs t = some l)
  (ho : g'.owner (nat4FreePortQueue e.key.l4proto) e.val.port =
    g.owner (nat4FreePortQueue e.key.l4proto) e.val.port)
include h ht ho

/-- An egress entry stays accounted for while its port keeps its owner, provided the acting
handler goes on answering for it where it did. -/
theorem EgressHeld.step
    (hs : ∀ c m, g.owner (nat4FreePortQueue e.key.l4proto) e.val.port = .closed c m →
      s.status c = .cleanStart → s'.status c = .cleanStart)
    (hthread : g.owner (nat4FreePortQueue e.key.l4proto) e.val.port = .thread t →
      l.callback = none → l.eg = some (e.key, e.val.addr) →
      l'.callback = none ∧ l'.eg = some (e.key, e.val.addr))
    (hmapped : ∀ m, g.owner (nat4FreePortQueue e.key.l4proto) e.val.port = .mapped m →
      (l.mine = some m → l.eg = some (e.key, e.val.addr)) →
      l'.mine = some m → l'.eg = some (e.key, e.val.addr))
    (hclosed : ∀ c m, g.owner (nat4FreePortQueue e.key.l4proto) e.val.port = .closed c m →
      (l.callback = some c → l.eg = some (e.key, e.val.addr)) →
      l'.callback = some c → l'.eg = some (e.key, e.val.addr)) :
    EgressHeld s' g' (update logs t (some l')) e := by
  unfold EgressHeld at h ⊢
  rw [ho]
  split at h
  · rename_i u hu
    obtain ⟨x,hx,hxc,hxe⟩ := h
    by_cases hut : u = t
    · subst hut
      rw [ht] at hx
      cases hx
      obtain ⟨hc,he⟩ := hthread hu hxc hxe
      exact ⟨l',by simp,hc,he⟩
    · exact ⟨x,by simpa [hut] using hx,hxc,hxe⟩
  · rename_i m hm
    refine ⟨h.1,h.2.1,
      forall_update (P := fun _ x => x.mine = some m → x.eg = some (e.key, e.val.addr)) ?_ ?_⟩
    · exact hmapped m hm (h.2.2 t l ht)
    · intro u x _ hx
      exact h.2.2 u x hx
  · rename_i c m hm
    refine ⟨h.1,h.2.1,hs c m hm h.2.2.1,
      forall_update (P := fun _ x => x.callback = some c → x.eg = some (e.key, e.val.addr)) ?_ ?_⟩
    · exact hclosed c m hm (h.2.2.2 t l ht)
    · intro u x _ hx
      exact h.2.2.2 u x hx
  · exact h

theorem EgressHeld.relog
    (hs : ∀ c m, g.owner (nat4FreePortQueue e.key.l4proto) e.val.port = .closed c m →
      s.status c = .cleanStart → s'.status c = .cleanStart)
    (hcb : l'.callback = l.callback ∨ l'.callback = none)
    (hmine : l'.mine = l.mine ∨ l'.mine = none) (heg : l'.eg = l.eg) :
    EgressHeld s' g' (update logs t (some l')) e := by
  refine h.step ht ho hs ?_ ?_ ?_
  · intro _ hc he
    rcases hcb with hc' | hc'
    · exact ⟨hc'.trans hc,heg.trans he⟩
    · exact ⟨hc',heg.trans he⟩
  · intro m _ he hm
    rcases hmine with hm' | hm'
    · exact heg.trans (he (hm' ▸ hm))
    · simp [hm'] at hm
  · intro c m _ he hc
    rcases hcb with hc' | hc'
    · exact heg.trans (he (hc' ▸ hc))
    · simp [hc'] at hc

end

section
variable (h : Base env s g logs)
include h

theorem Base.relogEgress (ht : logs t = some l) (E : Shrinks s s') (hq : Quiet l l')
    (hl : Local env s' g t l') (hk : ∀ k e, s'.egress k = some e → e.key = k)
    (he : ∀ k e, s'.egress k = some e → EgressHeld s' g (update logs t (some l')) e) :
    Base env s' g (update logs t (some l')) where
  ingressKey k m hm := by
    rw [E.ingress] at hm
    exact ⟨(h.ingressKey k m hm).1,(h.ingressKey k m hm).2.trans_le E.nextId⟩
  timerKey k c hc := by
    have hc := E.timer k c hc
    exact ⟨(h.timerKey k c hc).1,(h.timerKey k c hc).2.trans_le E.nextId⟩
  egressKey := hk
  ingressOwner := by rw [E.ingress]; exact h.ingressOwner
  mappedAt := by rw [E.ingress]; exact h.mappedAt
  mappedRef := by rw [E.stateRef]; exact h.mappedRef
  closedAt q p c m hm := by
    rw [E.ingress, E.stateRef]
    obtain ⟨h1,h2,h3,h4,h5,h6⟩ := h.closedAt q p c m hm
    exact ⟨h1,h2,h3,h4,h5.trans_le E.nextId,h6⟩
  portAt q p c hc := by
    obtain ⟨h1,h2,h3,h4⟩ := h.portAt q p c hc
    exact ⟨h1,h2,h3.trans_le E.nextId,h4⟩
  queueNodup := by rw [E.queue]; exact h.queueNodup
  queueOwner := by rw [E.queue]; exact h.queueOwner
  holder c m hc := by
    obtain ⟨h1,h2,h3⟩ := h.holder c m hc
    exact ⟨h1,h2,h3.trans_le E.nextId⟩
  usable := by rw [E.status]; exact h.usable
  idle c hc hr := by
    rw [E.running] at hr
    exact (h.idle c (E.timer _ c hc) hr).frame (by rw [E.status]) (fun _ => id) id
  static k c hc := h.static k c (E.timer k c hc)
  threads := by
    refine forall_update hl ?_
    intro u x _ hx
    refine (h.threads u x hx).frame (Frame.of_same E.nextId E.stateRef E.status E.timer ?_)
    intro c _ hc
    rw [E.running]
    exact hc
  callbackUnique := unique_keep h.callbackUnique ht hq.callback
  ctUnique := unique_keep h.ctUnique ht hq.ct
  mineUnique := unique_keep h.mineUnique ht hq.mine
  egressHeld := he
  threadOwner q p u hu := (h.threadOwner q p u hu).quiet ht hq

theorem Base.relog (ht : logs t = some l) (E : Shrinks s s') (hE : s'.egress = s.egress)
    (hq : Quiet l l') (heg : l'.eg = l.eg) (hl : Local env s' g t l') :
    Base env s' g (update logs t (some l')) := by
  refine h.relogEgress ht E hq hl ?_ ?_
  · rw [hE]
    exact h.egressKey
  · intro k e he
    rw [hE] at he
    exact (h.egressHeld k e he).relog ht rfl (by rw [E.status]; exact fun _ _ _ => id) hq.callback
      hq.mine heg

theorem Base.silent (ht : logs t = some l) (E : SameMaps s s') (hE : s'.egress = s.egress) :
    Base env s' g (update logs t (some l)) := by
  refine h.relog ht E.shrinks hE ⟨.inl rfl,.inl rfl,.inl rfl,rfl⟩ rfl ?_
  refine (h.threads t l ht).frame (Frame.of_same E.nextId E.stateRef E.status E.shrinks.timer ?_)
  intro c _ hc
  rw [E.running]
  exact hc

theorem live_of_ingress (hm : s.ingress k = some m) : Live s g m := by
  rcases h.ingressOwner k m hm with ho | ⟨c,ho⟩
  · exact .inl ho
  · right
    rw [(h.closedAt _ _ c m ho).2.2.2.2.2]
    exact nat4StateGet_make (by decide) (by decide)

theorem ingress_of_holder (hc : c ∈ g.holders m) : s.ingress (ctMapKey c.key) = some m := by
  obtain ⟨ho,hb,-⟩ := h.holder c m hc
  rw [← hb.key]
  exact (h.mappedAt _ _ m ho).2.2.1

theorem ingress_of_closed (hc : ctOwner g c = .closed c m) :
    s.ingress (ctMapKey c.key) = some m := by
  obtain ⟨-,-,hi,hb,-⟩ := h.closedAt _ _ c m hc
  rw [← hb.key]
  exact hi

theorem base_ingressLookup (ht : logs t = some l) (ha : Allowed env l (.ingressLookup k)) :
    Base env s g (update logs t (some (record l (.ingressLookup k) (s.ingress k)))) := by
  obtain ⟨hct,hcb⟩ := ha
  have hloc := h.threads t l ht
  refine h.relog ht (.rfl s) rfl ⟨.inl rfl,.inl rfl,.inl rfl,rfl⟩ rfl { hloc with
    found := ?_, ct := ?_, callback := ?_ }
  · intro m hm
    exact ⟨(h.ingressKey k m hm).2,live_of_ingress h hm⟩
  · simp [record, hct]
  · intro c hc
    obtain ⟨hk,hp⟩ := hcb c hc
    obtain ⟨h1,h2,hm0,h3⟩ := hloc.callback c hc
    refine ⟨h1,h2,hm0,{ h3 with holding := ?_, closing := ?_ }⟩
    · intro hr hcl hg hgo hst
      obtain ⟨m,hm,-⟩ := h3.holding hr hcl hg hgo hst
      refine ⟨m,hm,?_⟩
      intro m' hm'
      have hi := ingress_of_holder h hm
      rw [← hk] at hi
      exact some.inj (hm'.symm.trans hi)
    · intro hr hst hd hgo m hm
      have hcur := h3.current hr hgo _ hst (by decide)
      have hr' : l.released = false := hr
      have hrel : l.released = true → l.closed = true := by simp [hr']
      obtain ⟨m',hm'⟩ := (h3.idle hrel hgo hd hp).1 (.inr hcur)
      have hi := ingress_of_closed h hm'
      rw [← hk] at hi
      have heq : m = m' := some.inj (hm.symm.trans hi)
      exact heq ▸ hm'

theorem base_timerLookup (ht : logs t = some l) {k : TimerKey}
    (ha : Allowed env l (.timerLookup k)) :
    Base env s g (update logs t (some (record l (.timerLookup k) (s.timer k)))) := by
  have hloc := h.threads t l ht
  simp only [record]
  split
  · split
    · exact h.silent ht (.rfl s) rfl
    · refine h.relog ht (.rfl s) rfl ⟨.inl rfl,.inr rfl,.inl rfl,rfl⟩ rfl { hloc with
        ct := ?_, callback := ?_ }
      · simp
      · simp [ha.1]
  · refine h.relog ht (.rfl s) rfl ⟨.inl rfl,.inl rfl,.inl rfl,rfl⟩ rfl { hloc with
      seen := ?_, callback := ?_ }
    · intro c hc hst
      exact h.static k c hc hst
    · simp [ha.1]

theorem base_readStateRef (ht : logs t = some l) :
    Base env s g (update logs t (some (record l (.readStateRef m) (s.stateRef m)))) := by
  have hloc := h.threads t l ht
  simp only [record]
  split
  · rename_i hm
    refine h.relog ht (.rfl s) rfl ⟨.inl rfl,.inl rfl,.inl rfl,rfl⟩ rfl { hloc with
      nonzero := ?_, callback := ?_ }
    · intro m' hm' hz
      obtain rfl := some.inj (hm.symm.trans hm')
      simp only [Bool.and_eq_false_iff, decide_eq_false_iff_not] at hz
      rcases hz with hz | hz
      · exact hloc.nonzero m hm' hz
      · exact hz
    · intro c hc
      obtain ⟨h1,h2,h3,h4⟩ := hloc.callback c hc
      exact ⟨h1,h2,h3,{ h4 with }⟩
  · exact h.silent ht (.rfl s) rfl

/-- A usable entry on the port in hand shows that the mapping inserted for it is referenced. -/
theorem nonzero_of_usable (hloc : Local env s g t l) (hu : nat4CtStatusUsable (s.status c) = true)
    (hst : c.val.isStatic = false) (hat : l.atItem c = true) (hm : l.mine = some m) :
    s.stateRef m ≠ nat4StateMake nat4StateActive 0 := by
  obtain ⟨m',hm'⟩ := h.usable c hu hst
  obtain ⟨ho,hb,-⟩ := h.holder c m' hm'
  obtain ⟨-,p,v,hi,hq,hp⟩ := hloc.mineAt m hm
  simp only [Log.atItem, hi, Bool.and_eq_true, beq_iff_eq] at hat
  have hplace : mapOwner g m = mapOwner g m' := by
    rw [hb.owner g]
    simp only [mapOwner, ctOwner, ← hq, ← hp, hat.1, hat.2]
  rcases hloc.mineLive m hm with hl | hl
  · have heq : m = m' := by
      rw [hplace, ho] at hl
      exact (Owner.mapped.inj hl).symm
    subst heq
    obtain ⟨r,hr,hlt,hcard⟩ := h.mappedRef m hl
    have hpos : 0 < (g.holders m).card := Finset.card_pos.mpr ⟨c,hm'⟩
    rw [hr, nat4StateMake_eq _ hlt, nat4StateMake_eq _ (by decide)]
    omega
  · intro heq
    rw [heq, nat4StateGet_make (by decide) (by decide)] at hl
    exact absurd hl (by decide)

theorem base_readStatus (ht : logs t = some l) (ha : Allowed env l (.readStatus c)) :
    Base env s g (update logs t (some (record l (.readStatus c) (s.status c)))) := by
  have hloc := h.threads t l ht
  simp only [record, Log.onReadStatus]
  split
  · rename_i c' hc'
    obtain ⟨rfl,hf,hst,hfound⟩ := ha c' hc'
    refine h.relog ht (.rfl s) rfl ⟨.inl rfl,.inl rfl,.inl rfl,rfl⟩ rfl { hloc with callback := ?_ }
    intro c' hc''
    obtain rfl := some.inj (hc'.symm.trans hc'')
    obtain ⟨h1,h2,hm0,h3⟩ := hloc.callback c hc'
    refine ⟨h1,h2,hm0,{ h3 with current := ?_, closing := ?_ }⟩
    · intro _ _ st hst' _
      exact some.inj hst'
    · simp [hfound]
  · rename_i hcb
    split
    · rename_i hu
      simp only [Bool.and_eq_true, Bool.not_eq_true'] at hu
      refine h.relog ht (.rfl s) rfl ⟨.inl rfl,.inl rfl,.inl rfl,rfl⟩ rfl { hloc with
        nonzero := ?_, callback := ?_ }
      · intro m hm _
        exact nonzero_of_usable h hloc hu.1.1 hu.1.2 hu.2 hm
      · simp [hcb]
    · exact h.silent ht (.rfl s) rfl

end

/-- An egress entry that handler `t` does not answer for keeps its owner whatever `t` records
about egress entries. -/
theorem EgressHeld.other (h : EgressHeld s g logs e) (ht : logs t = some l)
    (hs : s'.status = s.status) (hm : l'.mine = l.mine) (hc : l'.callback = l.callback)
    (heg : l.eg ≠ some (e.key, e.val.addr)) : EgressHeld s' g (update logs t (some l')) e := by
  refine h.step ht rfl (by rw [hs]; exact fun _ _ _ => id) ?_ ?_ ?_
  · intro _ _ he
    exact absurd he heg
  · intro m _ he hm'
    exact absurd (he (hm ▸ hm')) heg
  · intro c m _ he hc'
    exact absurd (he (hc ▸ hc')) heg

theorem Local.setEg (h : Local env s g t l) (o : Option (MappingKey × UInt32)) :
    Local env s g t { l with eg := o } := by
  refine { h with callback := ?_ }
  intro c hc
  obtain ⟨h1,h2,h3,h4⟩ := h.callback c hc
  exact ⟨h1,h2,h3,{ h4 with }⟩

theorem base_egressLookup (h : Base env s g logs) (ht : logs t = some l)
    (ha : Allowed env l (.egressLookup k)) :
    Base env s g (update logs t (some (record l (.egressLookup k) (s.egress k)))) := by
  have hloc := h.threads t l ht
  simp only [record, Log.onEgressLookup]
  split
  · exact h.silent ht (.rfl s) rfl
  · rename_i c hc
    split
    · exact h.silent ht (.rfl s) rfl
    · rename_i hno
      refine h.relogEgress ht (.rfl s) ⟨.inl rfl,.inl rfl,.inl rfl,rfl⟩ (hloc.setEg none)
        h.egressKey ?_
      intro k' e he
      have hheld := h.egressHeld k' e he
      refine hheld.step ht rfl (fun _ _ _ => id) ?_ ?_ ?_
      · simp [hc]
      · simp [(hloc.callback c hc).2.2.1]
      · intro c' m ho _ hc'
        obtain rfl := some.inj (hc.symm.trans hc')
        simp only [EgressHeld, ho] at hheld
        obtain ⟨-,hp,-,hb,-⟩ := h.closedAt _ _ c m ho
        have hkey : e.key = k := by
          rw [hheld.1, ha c hc]
          simp [clientKey, ctClientKey, hb.key, ctMapKey, hb.addr, hb.port]
        rw [← hkey, h.egressKey k' e he, he] at hno
        simp [hheld.2.1, hp, hb.key, ctMapKey] at hno

theorem base_egressDelete (h : Base env s g logs) (ht : logs t = some l) :
    Base env (exec (.egressDelete k) s).2 g
      (update logs t (some (record l (.egressDelete k) ()))) := by
  have hloc := h.threads t l ht
  have E : Shrinks s (exec (.egressDelete k) s).2 :=
    ⟨le_rfl,rfl,fun _ _ => id,rfl,rfl,rfl,fun _ => rfl⟩
  have hold : ∀ k' e, (exec (.egressDelete k) s).2.egress k' = some e →
      k' ≠ k ∧ s.egress k' = some e := by
    intro k' e he
    by_cases hk : k' = k
    · simp [exec, hk] at he
    · exact ⟨hk,by simpa [exec, hk] using he⟩
  have hlocs : Local env (exec (.egressDelete k) s).2 g t l :=
    hloc.frame (Frame.of_same E.nextId E.stateRef E.status E.timer fun _ _ => id)
  simp only [record]
  split
  · rename_i hk
    refine h.relogEgress ht E ⟨.inl rfl,.inl rfl,.inl rfl,rfl⟩ (hlocs.setEg none)
      (fun k' e he => h.egressKey k' e (hold k' e he).2) ?_
    intro k' e he
    obtain ⟨hne,he⟩ := hold k' e he
    refine (h.egressHeld k' e he).other ht rfl rfl rfl ?_
    intro heg
    rw [heg, h.egressKey k' e he] at hk
    exact hne (some.inj hk)
  · refine h.relogEgress ht E ⟨.inl rfl,.inl rfl,.inl rfl,rfl⟩ hlocs
      (fun k' e he => h.egressKey k' e (hold k' e he).2) ?_
    intro k' e he
    exact (h.egressHeld k' e (hold k' e he).2).relog ht rfl (fun _ _ _ => id) (.inl rfl)
      (.inl rfl) rfl

theorem Local.holds_owner (h : Local env s g t l) {proto : UInt8}
    (hi : l.holds proto p) (hm : l.mine = none) :
    g.owner (nat4FreePortQueue proto) p = .thread t := by
  obtain ⟨proto',v,hv,hq,rfl⟩ := hi
  rw [← hq]
  exact h.token proto' v hv hm

theorem base_egressInsert (h : Base env s g logs) (ht : logs t = some l) {v : EgressMappingValue}
    (ha : Allowed env l (.egressInsert k v)) : Base env (exec (.egressInsert k v) s).2 g
      (update logs t (some (record l (.egressInsert k v) (exec (.egressInsert k v) s).1))) := by
  have hloc := h.threads t l ht
  obtain ⟨hcb,hm,heg,hi⟩ := ha
  have hown := hloc.holds_owner hi hm
  cases hk : s.egress k with
  | some e =>
    have hx : exec (.egressInsert k v) s = (none, s) := by simp [exec, State.insertEgress, hk]
    rw [hx]
    exact h.silent ht (.rfl s) rfl
  | none =>
    have hx : exec (.egressInsert k v) s = (some ⟨s.nextId,k,v⟩, { s with
        nextId := s.nextId + 1
        egress := update s.egress k (some ⟨s.nextId,k,v⟩)
        egressReuse := update s.egressReuse ⟨s.nextId,k,v⟩ v.isAllowReuse }) := by
      simp [exec, State.insertEgress, hk]
    rw [hx]
    have E : Shrinks s { s with
        nextId := s.nextId + 1
        egress := update s.egress k (some ⟨s.nextId,k,v⟩)
        egressReuse := update s.egressReuse ⟨s.nextId,k,v⟩ v.isAllowReuse } :=
      ⟨Nat.le_succ _,rfl,fun _ _ => id,rfl,rfl,rfl,fun _ => rfl⟩
    have hlocs := hloc.frame (Frame.of_same (g := g) (u := t) (l := l) E.nextId E.stateRef
      E.status E.timer fun _ _ => id)
    refine h.relogEgress ht E ⟨.inl rfl,.inl rfl,.inl rfl,rfl⟩ (hlocs.setEg _) ?_ ?_
    · intro k' e he
      rcases Table.update_eq_some he with ⟨rfl,⟨⟩⟩ | ⟨-,he⟩
      · rfl
      · exact h.egressKey k' e he
    · intro k' e he
      rcases Table.update_eq_some he with ⟨rfl,⟨⟩⟩ | ⟨-,he'⟩
      · simp only [EgressHeld, hown]
        exact ⟨{ l with eg := some (k', v.addr) },by simp [record],hcb,rfl⟩
      · exact (h.egressHeld k' e he').other ht rfl rfl rfl (by simp [heg])

theorem base_timerReturn (h : Base env s g logs) (ht : logs t = some l)
    (ha : Allowed env l (.timerReturn c)) : Base env (exec (.timerReturn c) s).2 g
      (update logs t (some (record l (.timerReturn c) ()))) := by
  obtain ⟨hcb,hd,hr,hp⟩ := ha
  have hloc := h.threads t l ht
  obtain ⟨-,-,hm0,hok⟩ := hloc.callback c hcb
  have hother : ∀ u x, u ≠ t → logs u = some x → x.callback ≠ some c := by
    intro u x hu hx hxc
    exact hu (h.callbackUnique u t x l c hx ht hxc hcb)
  have hidle : s.timer c.key = some c → Idle s g c := by
    intro hc
    have hg : l.gone = false := by
      cases hgone : l.gone with
      | false => rfl
      | true => exact absurd hc (hok.gone hgone)
    have hp' : l.pushed = false := by
      cases hpushed : l.pushed with
      | false => rfl
      | true => simp [hp hpushed] at hg
    refine hok.idle ?_ hg hd hp'
    intro hrel
    rcases hr hrel with hcl | hgo
    · exact hcl
    · simp [hgo] at hg
  have hl : Local env (exec (.timerReturn c) s).2 g t (Log.start none) := by
    constructor <;> intro x <;> simp [Log.start]
  refine { h with
    idle := ?_, threads := forall_update hl ?_, egressHeld := ?_, threadOwner := ?_
    callbackUnique := unique_keep h.callbackUnique ht (.inr rfl)
    ctUnique := unique_keep h.ctUnique ht (.inr rfl)
    mineUnique := unique_keep h.mineUnique ht (.inr rfl) }
  · intro c' hc' hrun
    by_cases hcc : c' = c
    · subst hcc
      exact hidle hc'
    · exact h.idle c' hc' (by simpa [exec, State.setTimer, hcc] using hrun)
  · intro u x hu hx
    refine (h.threads u x hx).frame (Frame.of_same le_rfl rfl rfl (fun _ _ => id) ?_)
    intro c' hc' hrun
    have hcc : c' ≠ c := fun heq => hother u x hu hx (heq ▸ hc')
    simpa [exec, State.setTimer, hcc] using hrun
  · intro k e he
    refine (h.egressHeld k e he).step ht rfl (fun _ _ _ => id) ?_ ?_ ?_
    · simp [hcb]
    · simp [record, Log.start]
    · simp [record, Log.start]
  · intro q p u hu
    refine (h.threadOwner q p u hu).relog ht ?_
    simp [hcb]

end Landscape.Nat4
