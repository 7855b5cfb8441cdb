import Landscape.Nat4.Entries

/-! Ownership holds along every run that keeps to the schedule: every access keeps it and gets an
answer its program is ready for. -/
namespace Landscape.Nat4
open Function List
variable {env : Env} {s s' : State} {g g' : Ghost} {logs : Nat → Option Log} {t u : Nat}
  {l l' : Log} {q : PortQueue} {p : UInt16} {c : Ct} {o : Op}

theorem HasToken.start (h : HasToken logs u q p) (ht : logs t = none)
    (o : Option Log) : HasToken (update logs t o) u q p := by
  obtain ⟨x,proto,v,hx,hrest⟩ := h
  have hu : u ≠ t := by
    rintro rfl
    simp [ht] at hx
  exact ⟨x,proto,v,by simpa [hu] using hx,hrest⟩

theorem EgressHeld.start {e : EgressMapping} (h : EgressHeld s g logs e) (ht : logs t = none)
    (hs : s'.status = s.status) (hm : l.mine = none)
    (hc : ∀ c m, g.owner (nat4FreePortQueue e.key.l4proto) e.val.port = .closed c m →
      e.key = clientKey m → e.val.addr = m.key.fromAddr → l.callback = some c →
      l.eg = some (e.key, e.val.addr)) : EgressHeld s' g (update logs t (some l)) e := by
  unfold EgressHeld at h ⊢
  split at h
  · rename_i u hu
    obtain ⟨x,hx,hxe⟩ := h
    have hut : u ≠ t := by
      rintro rfl
      simp [ht] at hx
    exact ⟨x,by simpa [hut] using hx,hxe⟩
  · rename_i m hm'
    refine ⟨h.1,h.2.1,
      forall_update (P := fun _ x => x.mine = some m → x.eg = some (e.key, e.val.addr)) ?_ ?_⟩
    · simp [hm]
    · intro u x _ hx
      exact h.2.2 u x hx
  · rename_i c m ho
    refine ⟨h.1,h.2.1,by rw [hs]; exact h.2.2.1,
      forall_update (P := fun _ x => x.callback = some c → x.eg = some (e.key, e.val.addr)) ?_ ?_⟩
    · exact hc c m ho h.1 h.2.1
    · intro u x _ hx
      exact h.2.2.2 u x hx
  · exact h

/-- A handler starts; a callback starts only while none runs for its entry. -/
theorem Base.start (h : Base env s g logs) (ht : logs t = none) {c : Option Ct} {b : Ct → BpfTimer}
    (hb : ∀ c', (b c').running = true ↔ (s.bpfTimer c').running = true ∨ c = some c')
    (hc : ∀ c', c = some c' → s.timer c'.key = some c' ∧ (s.bpfTimer c').running = false) :
    Base env { s with bpfTimer := b } g (update logs t (some (Log.start c))) := by
  have hother : ∀ c' u x, c = some c' → logs u = some x → x.callback ≠ some c' := by
    intro c' u x hc' hx hxc
    have hrun := ((h.threads u x hx).callback c' hxc).2.1
    simp [(hc c' hc').2] at hrun
  have hl : Local env { s with bpfTimer := b } g t (Log.start c) := by
    constructor
    case callback =>
      intro c' hc'
      obtain ⟨hk,hr⟩ := hc c' hc'
      refine ⟨(h.timerKey c'.key c' hk).2,(hb c').mpr (.inr hc'),rfl,?_⟩
      constructor
      case idle => exact fun _ _ _ _ => h.idle c' hk hr
      all_goals simp [Log.start]
    all_goals simp [Log.start]
  refine { h with
    idle := ?_, threads := forall_update hl ?_
    callbackUnique := unique_update h.callbackUnique fun c' u x hc' _ => hother c' u x hc'
    ctUnique := unique_update h.ctUnique (by simp [Log.start])
    mineUnique := unique_update h.mineUnique (by simp [Log.start])
    egressHeld := ?_, threadOwner := fun q p u hu => (h.threadOwner q p u hu).start ht _ }
  · intro c' hk hr
    refine h.idle c' hk (Bool.eq_false_iff.mpr fun hrun => ?_)
    exact Bool.eq_false_iff.mp hr ((hb c').mpr (.inl hrun))
  · intro u x _ hx
    exact (h.threads u x hx).frame
      (Frame.of_same le_rfl rfl rfl (fun _ _ => id) fun c' _ hrun => (hb c').mpr (.inl hrun))
  · intro k e he
    refine (h.egressHeld k e he).start ht rfl rfl ?_
    rintro c' m ho hk ha ⟨⟩
    have hbel := (h.closedAt _ _ c' m ho).2.2.2.1
    rw [hk, ha]
    simp [Log.start, clientKey, ctClientKey, hbel.key, ctMapKey, hbel.addr, hbel.port]

theorem Base.leave (h : Base env s g logs) (ht : logs t = some l) (hd : Done l) :
    Base env s g (update logs t none) := by
  have hkeep : ∀ {u x}, update logs t none u = some x → logs u = some x :=
    fun hx => (Table.of_update_none hx).2
  have hfree : ∀ q p, g.owner q p ≠ .thread t := by
    intro q p ho
    obtain ⟨-,hm,proto,v,hi,-⟩ := h.token_of_thread ht ho
    rcases hd.2.1 with hi' | hm'
    · simp [hi'] at hi
    · exact hm' hm
  refine { h with
    threads := fun u x hx => h.threads u x (hkeep hx)
    callbackUnique := fun a b x y c hx hy => h.callbackUnique a b x y c (hkeep hx) (hkeep hy)
    ctUnique := fun a b x y c hx hy => h.ctUnique a b x y c (hkeep hx) (hkeep hy)
    mineUnique := fun a b x y c hx hy => h.mineUnique a b x y c (hkeep hx) (hkeep hy)
    egressHeld := ?_, threadOwner := ?_ }
  · intro k e he
    have hheld := h.egressHeld k e he
    unfold EgressHeld at hheld ⊢
    split at hheld
    · rename_i u hu
      obtain ⟨x,hx,hxe⟩ := hheld
      have hut : u ≠ t := by
        rintro rfl
        exact hfree _ _ hu
      exact ⟨x,by simpa [hut] using hx,hxe⟩
    · exact ⟨hheld.1,hheld.2.1,fun u x hx => hheld.2.2 u x (hkeep hx)⟩
    · exact ⟨hheld.1,hheld.2.1,hheld.2.2.1,fun u x hx => hheld.2.2.2 u x (hkeep hx)⟩
    · exact hheld
  · intro q p u hu
    obtain ⟨x,proto,v,hx,hrest⟩ := h.threadOwner q p u hu
    have hut : u ≠ t := by
      rintro rfl
      exact hfree _ _ hu
    exact ⟨x,proto,v,by simpa [hut] using hx,hrest⟩

theorem seedPortQueue_nodup (first last : UInt16) :
    ((seedPortQueue first last).map (·.port)).Nodup := by
  have hinj : ∀ a ∈ (range (last.toNat + 1)).drop first.toNat,
      ∀ b ∈ (range (last.toNat + 1)).drop first.toNat,
      UInt16.ofNat a = UInt16.ofNat b → a = b := by
    intro a ha b hb hab
    have ha' := mem_range.mp (mem_of_mem_drop ha)
    have hb' := mem_range.mp (mem_of_mem_drop hb)
    have hlast := last.toNat_lt
    have hnat := congrArg UInt16.toNat hab
    simp only [UInt16.toNat_ofNat'] at hnat
    omega
  rw [seedPortQueue, map_map]
  exact List.Nodup.map_on hinj ((nodup_range).sublist (drop_sublist _ _))

def Ghost.seeded (cfg : NatConfig) : Ghost where
  owner q p :=
    if p ∈ (seedPortQueue (cfg.range q).1 (cfg.range q).2).map (·.port) then .queue else .nobody
  holders _ := ∅
  maker _ := 0

theorem not_seeded {cfg : NatConfig} {o : Owner} (h : (Ghost.seeded cfg).owner q p = o)
    (hq : o ≠ .queue) (hn : o ≠ .nobody) : False := by
  simp only [Ghost.seeded] at h
  split at h
  · exact hq h.symm
  · exact hn h.symm

theorem Base.seeded (env : Env) (cfg : NatConfig) :
    Base env (State.seeded cfg) (Ghost.seeded cfg) fun _ => none := by
  constructor
  case queueNodup =>
    intro q
    exact seedPortQueue_nodup _ _
  case queueOwner =>
    intro q v hv
    exact if_pos (mem_map_of_mem hv)
  case mappedAt | mappedRef | closedAt | portAt | threadOwner =>
    intros
    exact (not_seeded (by assumption) (by simp) (by simp)).elim
  case holder =>
    simp [Ghost.seeded]
  case usable =>
    intro c hu
    have hu' : nat4CtStatusUsable .pendingRef = true := hu
    exact absurd hu' (by decide)
  all_goals
    intros
    simp_all [State.seeded]

/-- The accesses whose answers may come too late. A mapping may be taken back only while nobody
has seen it, and a handler that has just inserted an element must not find another one in its
place. -/
def Timely (s : State) (logs : Nat → Option Log) (t : Nat) (l : Log) : Op → Prop
  | .ingressDelete _ => l.callback = none → ∀ m, l.mine = some m → RollbackOk s logs t m
  | .ingressLookup k => ∀ m, l.mine = some m → k = m.key → s.ingress k = none ∨ s.ingress k = some m
  | .timerLookup k => ∀ c, l.ct = some c → k = c.key → s.timer k = none ∨ s.timer k = some c
  | _ => True

/- The kernel's view of a timer may change as long as no callback starts or returns. -/
theorem sameMaps_setTimer {x : BpfTimer} (hx : x.running = (s.bpfTimer c).running) :
    SameMaps s (s.setTimer c x) := by
  refine ⟨le_rfl,rfl,rfl,rfl,rfl,rfl,?_⟩
  intro c'
  by_cases hc : c' = c
  · subst hc
    simpa [State.setTimer] using hx
  · simp [State.setTimer, hc]

theorem sameMaps_setCtState (d : Gress) (x : CtState) :
    SameMaps s (s.setCtState d c x) ∧ (s.setCtState d c x).egress = s.egress := by
  cases d <;> exact ⟨⟨le_rfl,rfl,rfl,rfl,rfl,rfl,fun _ => rfl⟩,rfl⟩

def Op.plain : Op → Bool
  | .readMappingReuse _ | .writeMappingReuse .. | .readEgressReuse _ | .writeEgressReuse ..
  | .readCtState .. | .casCtState .. | .timerInit _ | .timerSetCallback _ | .timerStart _
  | .fragLookup _ | .fragUpdate .. => true
  | _ => false

theorem exec_plain (ho : o.plain = true) :
    SameMaps s (exec o s).2 ∧ (exec o s).2.egress = s.egress := by
  cases o with
  | readMappingReuse | readEgressReuse | readCtState | timerSetCallback | fragLookup =>
    exact ⟨.rfl s,rfl⟩
  | writeMappingReuse | writeEgressReuse | fragUpdate =>
    exact ⟨⟨le_rfl,rfl,rfl,rfl,rfl,rfl,fun _ => rfl⟩,rfl⟩
  | casCtState d c old new =>
    simp only [exec]
    split
    · exact sameMaps_setCtState d new
    · exact ⟨.rfl s,rfl⟩
  | timerInit c =>
    simp only [exec]
    split
    · exact ⟨.rfl s,rfl⟩
    · exact ⟨sameMaps_setTimer rfl,rfl⟩
  | timerStart c =>
    simp only [exec]
    split
    · exact ⟨sameMaps_setTimer rfl,rfl⟩
    · exact ⟨.rfl s,rfl⟩
  | _ => cases ho

theorem Base.step (h : Base env s g logs) (ht : logs t = some l) (ha : Allowed env l o)
    (hr : Timely s logs t l o) : Base env (exec o s).2 (ghostNext g s t l o)
      (update logs t (some (record l o (exec o s).1))) := by
  cases o with
  | ingressLookup k => exact base_ingressLookup h ht ha
  | ingressInsert k v => exact base_ingressInsert h ht ha
  | ingressDelete k =>
    simp only [Allowed, AllowedDelete] at ha
    cases hcb : l.callback with
    | none =>
      simp only [hcb] at ha
      obtain ⟨hct,-,m,hm,rfl⟩ := ha
      exact base_ingressDelete_packet h ht hcb hct hm (hr hcb m hm)
    | some c =>
      simp only [hcb] at ha
      obtain ⟨rfl,hf,hst,hfound⟩ := ha
      exact base_ingressDelete_callback h ht hcb hf hst hfound
  | egressLookup k => exact base_egressLookup h ht ha
  | egressInsert k v => exact base_egressInsert h ht ha
  | egressDelete k => exact base_egressDelete h ht
  | timerLookup k => exact base_timerLookup h ht ha
  | timerInsert k v => exact base_timerInsert h ht ha
  | timerDelete k => exact base_timerDelete h ht ha
  | queuePop proto => exact base_queuePop h ht ha
  | queuePush proto v => exact base_queuePush h ht ha
  | readStateRef m => exact base_readStateRef h ht
  | casStateRef m old new => exact base_casStateRef h ht ha
  | readStatus c => exact base_readStatus h ht ha
  | casStatus c old new => exact base_casStatus h ht ha
  | storeStatus c st => exact base_storeStatus h ht ha
  | timerReturn c => exact base_timerReturn h ht ha
  | readMappingReuse | writeMappingReuse | readEgressReuse | writeEgressReuse | readCtState
  | casCtState
  | timerInit | timerSetCallback | timerStart | fragLookup | fragUpdate =>
    exact h.silent ht (exec_plain rfl).1 (exec_plain rfl).2

/-- A callback that has looked up the mapping of its entry's port finds the one the entry was
created from. -/
theorem Base.callback_finds (h : Base env s g logs) (hok : CallbackOk s g c l)
    (hst : c.val.isStatic = false) (hgo : l.gone = false)
    (hcase : (l.released = true ∧ l.closed = false ∧ l.gave = false) ∨
      (l.Fresh ∧ l.status = some .deleteIngress)) :
    ∃ m, s.ingress (ctMapKey c.key) = some m ∧ m.val.generation = c.val.generationSnapshot := by
  rcases hcase with ⟨hr,hcl,hgv⟩ | ⟨hf,hls⟩
  · obtain ⟨m,hm,-⟩ := hok.holding hr hcl hgv hgo hst
    exact ⟨m,ingress_of_holder h hm,(h.holder c m hm).2.1.gen.symm⟩
  · have hcur := hok.current hf.released hf.gone _ hls (by decide)
    obtain ⟨m,hm⟩ := (hok.idle (by simp [hf.released]) hgo hf.detached hf.pushed).1 (.inr hcur)
    exact ⟨m,ingress_of_closed h hm,(h.closedAt _ _ c m hm).2.2.2.1.gen.symm⟩

/-- Only entries with a mapping of their own reach the clean-up statuses. -/
theorem Base.dynamic_of_high (h : Base env s g logs) (hi : Idle s g c)
    (hhigh : TimerStatus.cleanStart.value ≤ (s.status c).value) : c.val.isStatic = false := by
  cases hst : s.status c <;> rw [hst] at hhigh
  case cleanStart =>
    obtain ⟨m,hm⟩ := hi.1 (.inl hst)
    exact (h.closedAt _ _ c m hm).2.2.2.1.dynamic
  case deleteIngress =>
    obtain ⟨m,hm⟩ := hi.1 (.inr hst)
    exact (h.closedAt _ _ c m hm).2.2.2.1.dynamic
  case pushQueue => exact (h.portAt _ _ c (hi.2 hst)).2.2.2
  all_goals exact absurd hhigh (by decide)

theorem Base.answers (h : Base env s g logs) (ht : logs t = some l) (ha : Allowed env l o)
    (hr : Timely s logs t l o) : Answers env l o (exec o s).1 := by
  have hloc := h.threads t l ht
  cases o with
  | ingressLookup k =>
    refine ⟨fun m hm => (h.ingressKey k m hm).1,hr,?_⟩
    rintro c hc rfl hst hgo hcase
    exact h.callback_finds (hloc.callback c hc).2.2.2 hst hgo hcase
  | ingressInsert k v =>
    obtain ⟨-,hm,-,-,-,-,-,hi⟩ := ha
    have hk := ingress_none_of_thread h (hloc.holds_owner hi hm)
    exact ⟨_,by rw [exec_ingressInsert v hk],rfl,rfl⟩
  | timerLookup k =>
    refine ⟨?_,hr⟩
    intro c hc
    obtain ⟨rfl,-⟩ := h.timerKey k c hc
    exact ⟨rfl,h.static _ c hc⟩
  | timerInsert k v =>
    intro c hc
    simp only [exec, State.insertTimer] at hc
    split at hc
    · cases hc
    · cases hc
      exact ⟨rfl,rfl⟩
  | queuePush proto v => rfl
  | readStatus c =>
    intro hcb hhigh
    obtain ⟨-,hf,-⟩ := ha c hcb
    have hok := (hloc.callback c hcb).2.2.2
    exact h.dynamic_of_high (hok.idle (by simp [hf.released]) hf.gone hf.detached hf.pushed) hhigh
  | casStatus c old new =>
    intro hcb hcase
    have hok := (hloc.callback c hcb).2.2.2
    have hcur : s.status c = old := by
      rcases ha with ⟨hu,-⟩ | ⟨-,h1,-,h3,hb⟩
      · rcases hcase with rfl | rfl <;> exact absurd hu (by decide)
      · rcases hb with ⟨rfl,-⟩ | ⟨rfl,-,hls,-⟩ | ⟨rfl,-,hls,-⟩
        · rcases hcase with hc | hc <;> cases hc
        · exact hok.current h1 h3 _ hls (by decide)
        · exact hok.current h1 h3 _ hls (by decide)
    simp [exec, hcur]
  | _ => trivial

end Landscape.Nat4
