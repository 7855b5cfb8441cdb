import Landscape.Nat4.Ownership

/-! No port is lost: the count of a mapping is exact, every owner of a port can still give it
back, and a mapping without a reference is in the hands of the handler that made it. -/
namespace Landscape.Nat4
open Packet Function
variable {env : Env} {cfg : NatConfig} {s s' : State} {g g' : Ghost} {logs : Nat → Option Log}
  {t u : Nat} {l l' : Log} {m : Mapping} {k : MappingKey}

def Ours (env : Env) (proto : UInt8) (addr : UInt32) : Prop :=
  (proto = ipprotoTcp ∨ proto = ipprotoUdp ∨ proto = ipprotoIcmp) ∧
    ∃ i, env.wanIpBinding i = some addr

def Attached (s : State) (c : Ct) : Prop := s.timer c.key = some c

/- The entry `c` counts on no mapping and owns no port. -/
def Rid (g : Ghost) (c : Ct) : Prop :=
  (∀ m, c ∉ g.holders m) ∧ (∀ m, ctOwner g c ≠ .closed c m) ∧ ctOwner g c ≠ .port c

structure ExactLog (s : State) (g : Ghost) (l : Log) : Prop where
  pending : ∀ c m, l.ct = some c → l.found = some m → mapOwner g m = .mapped m → Attached s c
  started : ∀ c, l.callback = some c → l.status ≠ some .pendingRef
  gave : ∀ c, l.callback = some c → l.gave = true → l.released = true
  pushed : ∀ c, l.callback = some c → l.pushed = true →
    l.status = some .pushQueue ∧ l.released = false
  rid : ∀ c, l.callback = some c → l.gone = false → l.gave = true ∨ l.pushed = true → Rid g c

structure Exact (env : Env) (cfg : NatConfig) (s : State) (g : Ghost)
    (logs : Nat → Option Log) : Prop where
  count : ∀ m, mapOwner g m = .mapped m → (g.holders m).card = nat4RefGet (s.stateRef m)
  made : ∀ m, mapOwner g m = .mapped m → g.holders m = ∅ →
    ∃ l, logs (g.maker m) = some l ∧ l.mine = some m ∧ l.zero = true
  held : ∀ c m, c ∈ g.holders m → Attached s c
  closing : ∀ q p c m, g.owner q p = .closed c m → Attached s c ∧ ¬Low (s.status c)
  porting : ∀ q p c, g.owner q p = .port c → Attached s c ∧ ¬Low (s.status c) ∧
    Ours env c.key.l4proto c.key.pairIp.dstAddr
  queued : ∀ q p, g.owner q p = .queue → p ∈ (s.queue q).map (·.port)
  nobody : ∀ q p, g.owner q p = .nobody →
    p ∉ (seedPortQueue (cfg.range q).1 (cfg.range q).2).map (·.port)
  ours : ∀ k m, s.ingress k = some m → Ours env m.key.l4proto m.key.fromAddr
  threads : ∀ t l, logs t = some l → ExactLog s g l

/-- The steps that could lose a port. A delete hits the entry it is meant for; a callback does not
find its entry still pending, and has given its reference back before it deletes a released one;
mappings are made for protocols with a queue of their own. -/
def Steady (s : State) (l : Log) : Op → Prop
  | .ingressInsert k _ => k.l4proto = ipprotoTcp ∨ k.l4proto = ipprotoUdp ∨ k.l4proto = ipprotoIcmp
  | .readStatus c => l.callback = some c → s.status c ≠ .pendingRef
  | .timerDelete k =>
    match l.callback, l.ct with
    | some c, _ => (s.timer k = none ∨ s.timer k = some c) ∧
      (l.released = true → c.val.isStatic = false → l.gave = true)
    | none, some c => s.timer k = none ∨ s.timer k = some c
    | none, none => (s.timer k = none ∨ s.timer k = l.seen) ∧
      ∀ m, l.found = some m → s.ingress m.key = some m
  | _ => True

section
variable (hx : Exact env cfg s g logs)
include hx

theorem Exact.zero_of_empty (h : Base env s g logs) (ho : mapOwner g m = .mapped m)
    (he : g.holders m = ∅) : s.stateRef m = nat4StateMake nat4StateActive 0 := by
  obtain ⟨r,hr,hlt,-⟩ := h.mappedRef m ho
  have hc := hx.count m ho
  rw [hr, nat4RefGet_make _ hlt, he] at hc
  rw [hr, ← hc]
  rfl

theorem made_update (ht : logs t = some l) {m : Mapping} (ho : mapOwner g m = .mapped m)
    (he : g.holders m = ∅) (hl : l.mine = some m → l.zero = true → l'.mine = some m ∧
      l'.zero = true) :
    ∃ x, update logs t (some l') (g.maker m) = some x ∧ x.mine = some m ∧ x.zero = true := by
  obtain ⟨x,hxm,h1,h2⟩ := hx.made m ho he
  by_cases hu : g.maker m = t
  · rw [hu, ht] at hxm
    cases hxm
    exact ⟨l',by simp [hu],hl h1 h2⟩
  · exact ⟨x,by simpa [hu] using hxm,h1,h2⟩

theorem Exact.relog (ht : logs t = some l) (E : SameMaps s s') (hl : ExactLog s g l')
    (hmade : ∀ m, mapOwner g m = .mapped m → g.holders m = ∅ → l.mine = some m → l.zero = true →
      l'.mine = some m ∧ l'.zero = true) : Exact env cfg s' g (update logs t (some l')) := by
  have hlog : ∀ x, ExactLog s g x → ExactLog s' g x := by
    intro x h
    exact ⟨by simpa [Attached, E.timer] using h.pending,h.started,h.gave,h.pushed,h.rid⟩
  constructor
  case count =>
    rw [E.stateRef]
    exact hx.count
  case made =>
    intro m ho he
    exact made_update hx ht ho he (hmade m ho he)
  case held => simpa [Attached, E.timer] using hx.held
  case closing => simpa [Attached, E.timer, E.status] using hx.closing
  case porting => simpa [Attached, E.timer, E.status] using hx.porting
  case queued =>
    rw [E.queue]
    exact hx.queued
  case nobody => exact hx.nobody
  case ours =>
    rw [E.ingress]
    exact hx.ours
  case threads => exact forall_update (hlog _ hl) fun u x _ h => hlog x (hx.threads u x h)

theorem Exact.silent (ht : logs t = some l) (E : SameMaps s s') :
    Exact env cfg s' g (update logs t (some l)) :=
  hx.relog ht E (hx.threads t l ht) fun _ _ _ h1 h2 => ⟨h1,h2⟩

theorem exact_ingressLookup (ht : logs t = some l) (hct : l.ct = none) (r : Option Mapping) :
    Exact env cfg s g (update logs t (some (record l (.ingressLookup k) r))) := by
  have hl := hx.threads t l ht
  refine hx.relog ht (.rfl s) ⟨?_,hl.started,hl.gave,hl.pushed,hl.rid⟩ fun _ _ _ h1 h2 => ⟨h1,h2⟩
  simp [record, hct]

theorem exact_egress (ht : logs t = some l) (E : SameMaps s s') {o : Op} {r : Res o}
    (hl : record l o r = l ∨ ∃ e, record l o r = { l with eg := e }) :
    Exact env cfg s' g (update logs t (some (record l o r))) := by
  rcases hl with hl | ⟨e,hl⟩
  · rw [hl]
    exact hx.silent ht E
  · have h := hx.threads t l ht
    rw [hl]
    exact hx.relog ht E ⟨h.pending,h.started,h.gave,h.pushed,h.rid⟩ fun _ _ _ h1 h2 => ⟨h1,h2⟩

theorem exact_timerLookup (ht : logs t = some l) {k : TimerKey} (r : Option Ct) :
    Exact env cfg s g (update logs t (some (record l (.timerLookup k) r))) := by
  have h := hx.threads t l ht
  simp only [record]
  split
  · split
    · exact hx.silent ht (.rfl s)
    · refine hx.relog ht (.rfl s) ⟨?_,h.started,h.gave,h.pushed,h.rid⟩
        fun _ _ _ h1 h2 => ⟨h1,h2⟩
      rintro c m ⟨⟩
  · exact hx.relog ht (.rfl s) ⟨h.pending,h.started,h.gave,h.pushed,h.rid⟩
      fun _ _ _ h1 h2 => ⟨h1,h2⟩

theorem exact_readStateRef (hb : Base env s g logs) (ht : logs t = some l) :
    Exact env cfg s g (update logs t (some (record l (.readStateRef m) (s.stateRef m)))) := by
  have h := hx.threads t l ht
  simp only [record]
  split
  · rename_i hm
    refine hx.relog ht (.rfl s) ⟨h.pending,h.started,h.gave,h.pushed,h.rid⟩ ?_
    intro m' ho he hm' hz
    obtain rfl := Option.some.inj (hm.symm.trans hm')
    exact ⟨hm',by simp [hz, hx.zero_of_empty hb ho he]⟩
  · exact hx.silent ht (.rfl s)

end

variable {c : Ct} {q : PortQueue} {p : UInt16} {o : Owner} {proto : UInt8}

theorem exact_readStatus (hx : Exact env cfg s g logs) (hb : Base env s g logs)
    (ht : logs t = some l) (ha : Allowed env l (.readStatus c)) (hs : Steady s l (.readStatus c)) :
    Exact env cfg s g (update logs t (some (record l (.readStatus c) (s.status c)))) := by
  have h := hx.threads t l ht
  simp only [record, Log.onReadStatus]
  split
  · rename_i c' hc'
    obtain ⟨rfl,hf,-⟩ := ha c' hc'
    refine hx.relog ht (.rfl s) ⟨h.pending,?_,h.gave,?_,h.rid⟩ fun _ _ _ h1 h2 => ⟨h1,h2⟩
    · intro _ _ hst
      exact hs hc' (Option.some.inj hst)
    · simp [hf.pushed]
  · split
    · rename_i hu
      simp only [Bool.and_eq_true, Bool.not_eq_true'] at hu
      refine hx.relog ht (.rfl s) ⟨h.pending,h.started,h.gave,h.pushed,h.rid⟩ ?_
      intro m ho he hm _
      exact absurd (hx.zero_of_empty hb ho he)
        (nonzero_of_usable hb (hb.threads t l ht) hu.1.1 hu.1.2 hu.2 hm)
    · exact hx.silent ht (.rfl s)

theorem exact_timerReturn (hx : Exact env cfg s g logs) (hb : Base env s g logs)
    (ht : logs t = some l) (hcb : l.callback = some c) : Exact env cfg (exec (.timerReturn c) s).2 g
      (update logs t (some (record l (.timerReturn c) ()))) := by
  have hmine := ((hb.threads t l ht).callback c hcb).2.2.1
  have hlog : ∀ x, ExactLog s g x → ExactLog (exec (.timerReturn c) s).2 g x := by
    intro x h
    exact ⟨h.pending,h.started,h.gave,h.pushed,h.rid⟩
  refine ⟨hx.count,?_,hx.held,hx.closing,hx.porting,hx.queued,hx.nobody,hx.ours,
    forall_update ?_ fun u x _ h => hlog x (hx.threads u x h)⟩
  · intro m ho he
    refine made_update hx ht ho he ?_
    simp [hmine]
  · constructor <;> simp [record, Log.start]

theorem Rid.setOwner (h : Rid g c) (hg : g'.owner = (g.setOwner q p o).owner)
    (hh : ∀ m, c ∉ g'.holders m) (ho : (∀ m, o ≠ .closed c m) ∧ o ≠ .port c) : Rid g' c := by
  refine ⟨hh,?_,?_⟩
  · intro m hm
    rw [ctOwner, hg] at hm
    rcases setOwner_cases hm with ⟨-,-,hoc⟩ | ⟨-,hm⟩
    · exact ho.1 m hoc.symm
    · exact h.2.1 m hm
  · intro hm
    rw [ctOwner, hg] at hm
    rcases setOwner_cases hm with ⟨-,-,hoc⟩ | ⟨-,hm⟩
    · exact ho.2 hoc.symm
    · exact h.2.2 hm

/-- A port changes hands, perhaps together with its mapping; entries and their statuses stay. -/
theorem Exact.move (hx : Exact env cfg s g logs) (ht : logs t = some l)
    (hg : g'.owner = (g.setOwner q p o).owner) (hh : ∀ m c, c ∈ g'.holders m → c ∈ g.holders m)
    (htm : s'.timer = s.timer) (hst : s'.status = s.status)
    (hqueued : ∀ q' p', g'.owner q' p' = .queue → p' ∈ (s'.queue q').map (·.port))
    (hcount : ∀ m, mapOwner g' m = .mapped m → (g'.holders m).card = nat4RefGet (s'.stateRef m))
    (hmade : ∀ m, mapOwner g' m = .mapped m → g'.holders m = ∅ →
      ∃ x, update logs t (some l') (g'.maker m) = some x ∧ x.mine = some m ∧ x.zero = true)
    (hours : ∀ k m, s'.ingress k = some m → Ours env m.key.l4proto m.key.fromAddr)
    (hclosed : ∀ c m, o = .closed c m → Attached s c ∧ ¬Low (s.status c) ∧ l.callback = some c)
    (hport : ∀ c, o = .port c → Attached s c ∧ ¬Low (s.status c) ∧ l.callback = some c ∧
      Ours env c.key.l4proto c.key.pairIp.dstAddr) (hnobody : o ≠ .nobody)
    (hb : Base env s g logs) (hfresh : ∀ m, o = .mapped m → s.nextId ≤ m.id)
    (hl : ExactLog s g' l') :
    Exact env cfg s' g' (update logs t (some l')) := by
  have hown : ∀ {q' p' x}, g'.owner q' p' = x → x = o ∨ g.owner q' p' = x := by
    intro q' p' x h
    rw [hg] at h
    rcases setOwner_cases h with ⟨-,-,hxo⟩ | ⟨-,h⟩
    · exact .inl hxo
    · exact .inr h
  refine ⟨hcount,hmade,?_,?_,?_,hqueued,?_,hours,forall_update ?_ ?_⟩
  · intro c m hc
    rw [Attached, htm]
    exact hx.held c m (hh m c hc)
  · intro q' p' c m h
    rw [Attached, htm, hst]
    rcases hown h with rfl | h
    · exact ⟨(hclosed c m rfl).1,(hclosed c m rfl).2.1⟩
    · exact hx.closing q' p' c m h
  · intro q' p' c h
    rw [Attached, htm, hst]
    rcases hown h with rfl | h
    · obtain ⟨h1,h2,-,h4⟩ := hport c rfl
      exact ⟨h1,h2,h4⟩
    · exact hx.porting q' p' c h
  · intro q' p' h
    rcases hown h with h | h
    · exact absurd h.symm hnobody
    · exact hx.nobody q' p' h
  · exact ⟨by simpa [Attached, htm] using hl.pending,hl.started,hl.gave,hl.pushed,hl.rid⟩
  · intro u x hu hxu
    have h := hx.threads u x hxu
    refine ⟨?_,h.started,h.gave,h.pushed,?_⟩
    · intro c m h1 h2 h3
      rw [Attached, htm]
      rcases hown h3 with h3 | h3
      · have hid := ((hb.threads u x hxu).found m h2).1
        exact absurd (hfresh m h3.symm) (Nat.not_le.mpr hid)
      · exact h.pending c m h1 h2 h3
    · intro c h1 h2 h3
      have hr := h.rid c h1 h2 h3
      have hne : l.callback ≠ some c := by
        intro hcb
        exact hu (hb.callbackUnique u t x l c hxu ht h1 hcb)
      refine hr.setOwner hg (fun m hm => hr.1 m (hh m c hm)) ⟨?_,?_⟩
      · intro m hom
        exact hne (hclosed c m hom).2.2
      · intro hop
        exact hne (hport c hop).2.2.1

section
variable (hx : Exact env cfg s g logs)
include hx

theorem Exact.count_keep (ho : ∀ m, .mapped m ≠ o) :
    ∀ m, mapOwner (g.setOwner q p o) m = .mapped m →
    (g.holders m).card = nat4RefGet (s.stateRef m) :=
  fun m hm => hx.count m (owner_of_setOwner hm (ho m)).2

theorem Exact.made_keep (ht : logs t = some l) (ho : ∀ m, .mapped m ≠ o)
    (hl : ∀ m, l.mine = some m → l.zero = true → l'.mine = some m ∧ l'.zero = true) :
    ∀ m, mapOwner (g.setOwner q p o) m = .mapped m → g.holders m = ∅ →
      ∃ x, update logs t (some l') (g.maker m) = some x ∧ x.mine = some m ∧ x.zero = true :=
  fun m hm he => made_update hx ht (owner_of_setOwner hm (ho m)).2 he (hl m)

theorem Exact.queued_keep (ho : o ≠ .queue) :
    ∀ q' p', (g.setOwner q p o).owner q' p' = .queue → p' ∈ (s.queue q').map (·.port) :=
  fun q' p' h => hx.queued q' p' (owner_of_setOwner h ho.symm).2

theorem exact_queuePop (hb : Base env s g logs) (ht : logs t = some l) (hcb : l.callback = none) :
    After (Exact env cfg) s g logs t l (.queuePop proto) := by
  cases hq : s.queue (nat4FreePortQueue proto) with
  | nil =>
    rw [after_queuePop_nil hq]
    exact hx.silent ht (.rfl s)
  | cons v rest =>
    rw [after_queuePop_cons hq]
    set q := nat4FreePortQueue proto
    have h := hx.threads t l ht
    refine hx.move ht rfl (fun _ _ hc => hc) rfl rfl ?_ (hx.count_keep (by simp))
      (hx.made_keep ht (by simp) fun _ h1 h2 => ⟨h1,h2⟩) hx.ours
      (by simp) (by simp) (by simp) hb (by simp) ⟨?_,?_,?_,?_,?_⟩
    · intro q' p' ho
      obtain ⟨hne,ho⟩ := owner_of_setOwner ho (by simp)
      have hp := hx.queued q' p' ho
      by_cases hq' : q' = q
      · subst hq'
        rw [hq, List.map_cons, List.mem_cons] at hp
        rcases hp with hp | hp
        · exact absurd ⟨rfl,hp⟩ hne
        · simpa using hp
      · simpa [hq'] using hp
    · intro c m h1 h2 h3
      obtain ⟨-,h3⟩ := owner_of_setOwner h3 (by simp)
      exact h.pending c m h1 h2 h3
    all_goals
      simp [record, hcb]

theorem queued_push (v : PortQueueValue) :
    ∀ q' p', (g.setOwner q v.port .queue).owner q' p' = .queue →
      p' ∈ (update s.queue q (s.queue q ++ [v]) q').map (·.port) := by
  intro q' p' ho
  rcases setOwner_cases ho with ⟨rfl,rfl,-⟩ | ⟨-,ho⟩
  · simp
  · have hp := hx.queued q' p' ho
    by_cases hq' : q' = q
    · subst hq'
      simpa using .inl (by simpa using hp)
    · simpa [hq'] using hp

theorem exact_queuePush (hb : Base env s g logs) (ht : logs t = some l)
    {v : PortQueueValue} (ha : Allowed env l (.queuePush proto v)) :
    After (Exact env cfg) s g logs t l (.queuePush proto v) := by
  have h := hx.threads t l ht
  refine hx.move ht rfl (fun _ _ hc => hc) rfl rfl (queued_push hx v) (hx.count_keep (by simp))
    (hx.made_keep ht (by simp) fun _ h1 h2 => ⟨h1,h2⟩) hx.ours (by simp) (by simp) (by simp) hb
      (by simp) ⟨?_,h.started,h.gave,?_,?_⟩
  · intro c m h1 h2 h3
    obtain ⟨-,h3⟩ := owner_of_setOwner h3 (by simp)
    exact h.pending c m h1 h2 h3
  · intro c hc _
    have hcb : l.callback = some c := hc
    simp only [Allowed, AllowedPush, hcb] at ha
    exact ⟨ha.2.1,ha.1.released⟩
  · intro c hc _ _
    have hcb : l.callback = some c := hc
    simp only [Allowed, AllowedPush, hcb] at ha
    obtain ⟨hf,hst,hq,hp⟩ := ha
    have hown := ((hb.threads t l ht).callback c hcb).2.2.2.port_of_push hf hst
    have hplace : ctOwner (ghostNext g s t l (.queuePush proto v)) c = .queue := by
      rw [ghostNext, hq, hp]
      exact setOwner_self
    refine ⟨?_,by simp [hplace],by simp [hplace]⟩
    intro m hm
    obtain ⟨ho,hbel,-⟩ := hb.holder c m hm
    rw [hbel.owner, hown] at ho
    cases ho

end

theorem exact_ingressInsert (hx : Exact env cfg s g logs) (hb : Base env s g logs)
    (ht : logs t = some l) {v : MappingValue}
    (ha : Allowed env l (.ingressInsert k v)) (hs : Steady s l (.ingressInsert k v)) :
    After (Exact env cfg) s g logs t l (.ingressInsert k v) := by
  unfold After
  obtain ⟨hcb,hmine,-,hsr,-,hwan,-,hi⟩ := ha
  have h := hx.threads t l ht
  have hX := (hb.threads t l ht).holds_owner hi hmine
  have hk := ingress_none_of_thread hb hX
  rw [exec_ingressInsert v hk]
  set m : Mapping := ⟨s.nextId,k,v⟩ with hmdef
  have hold : ∀ m' : Mapping, mapOwner g m' = .mapped m' → m' ≠ m := by
    intro m' ho heq
    subst heq
    have ho' : g.owner (nat4FreePortQueue k.l4proto) k.fromPort = .mapped m := ho
    rw [hX] at ho'
    cases ho'
  have hholders : g.holders m = ∅ := by
    refine Finset.eq_empty_of_forall_notMem ?_
    intro c hc
    exact hold m (hb.holder c m hc).1 rfl
  have hown : ∀ m', mapOwner (ghostNext g s t l (.ingressInsert k v)) m' = .mapped m' →
      m' = m ∨ (m' ≠ m ∧ mapOwner g m' = .mapped m') := by
    intro m' ho
    rcases setOwner_cases ho with ⟨-,-,hmm⟩ | ⟨-,ho⟩
    · exact .inl (Owner.mapped.inj hmm)
    · exact .inr ⟨hold m' ho,ho⟩
  refine hx.move ht rfl (fun _ _ hc => hc) rfl rfl (hx.queued_keep (by simp)) ?_ ?_ ?_ (by simp)
    (by simp) (by simp)
    hb ?_ ⟨?_,?_,?_,?_,?_⟩
  · intro m' ho
    rcases hown m' ho with rfl | ⟨hne,ho⟩
    · have hz : nat4RefGet (nat4StateMake nat4StateActive 0) = 0 := nat4RefGet_make _ (by decide)
      simp [ghostNext, hholders, hsr, hz]
    · simpa [ghostNext, hne] using hx.count m' ho
  · intro m' ho he
    rcases hown m' ho with rfl | ⟨hne,ho⟩
    · have hmk : (ghostNext g s t l (.ingressInsert k v)).maker m = t := by
        simp [ghostNext, hmdef]
      rw [hmk]
      exact ⟨_,update_self _ _ _,rfl,rfl⟩
    · have hmk : (ghostNext g s t l (.ingressInsert k v)).maker m' = g.maker m' := by
        simp [ghostNext, ← hmdef, hne]
      rw [hmk]
      refine made_update hx ht ho he ?_
      simp [hmine]
  · intro k' m' hm'
    rcases Table.update_eq_some hm' with ⟨-,hm'⟩ | ⟨-,hm'⟩
    · exact Option.some.inj hm' ▸ ⟨hs,hwan⟩
    · exact hx.ours k' m' hm'
  · rintro m' hmm
    cases hmm
    exact le_rfl
  · intro c m' h1 h2 h3
    have hid := ((hb.threads t l ht).found m' h2).1
    rcases hown m' h3 with rfl | ⟨-,h3⟩
    · exact absurd hid (lt_irrefl _)
    · exact h.pending c m' h1 h2 h3
  all_goals
    simp [record, hcb]

end Landscape.Nat4
