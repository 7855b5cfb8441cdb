import Landscape.Nat4.Refs

/-! Ownership is kept by every access: the status of a conntrack entry, and the map of
entries. -/
namespace Landscape.Nat4
open Function Option
variable {env : Env} {s : State} {g : Ghost} {logs : Nat → Option Log} {t u : Nat} {l l' : Log}

/- The statuses before `TIMER_CLEAN_START`: the entry has not begun to give its port back. -/
def Low (st : TimerStatus) : Prop := st.value < TimerStatus.cleanStart.value

instance (st : TimerStatus) : Decidable (Low st) := inferInstanceAs (Decidable (_ < _))

variable {st new : TimerStatus} {c : Ct} {k : TimerKey}

theorem low_of_usable (h : nat4CtStatusUsable st = true) : Low st := by
  simp only [nat4CtStatusUsable, Bool.and_eq_true, decide_eq_true_eq] at h
  exact h.2

theorem not_low (h : TimerStatus.cleanStart.value ≤ st.value) : ¬Low st :=
  Nat.not_lt.mpr h

theorem Idle.of_low (h : Low (s.status c)) : Idle s g c := by
  refine ⟨?_,?_⟩
  · rintro (hst | hst) <;> rw [hst] at h <;> exact absurd h (by decide)
  · intro hst
    rw [hst] at h
    exact absurd h (by decide)

theorem setStatus_status (c' : Ct) :
    (s.setStatus c st).status c' = if c' = c then st else s.status c' := by
  by_cases hc : c' = c <;> simp [State.setStatus, hc]

/-- A callback does not notice its entry moving between statuses before the clean-up. -/
theorem CallbackOk.setLow {c' : Ct} (h : CallbackOk s g c' l) (hold : Low (s.status c))
    (hnew : Low st) :
    CallbackOk (s.setStatus c st) g c' l := by
  by_cases hc : c' = c
  · subst hc
    have hst : (s.setStatus c' st).status c' = st := by simp [setStatus_status]
    refine ⟨?_,?_,?_,h.holding,h.closing,h.detached,h.gone⟩
    · intro _ _ _ _
      exact Idle.of_low (by rw [hst]; exact hnew)
    · intro h1 h2 st' h3 h4
      rw [h.current h1 h2 st' h3 h4] at hold
      exact absurd hold (not_low h4)
    · intro h1
      rw [h.releasing h1] at hold
      exact absurd hold (by decide)
  · exact h.frame (by simp [setStatus_status, hc]) (fun _ => id) id (fun _ => id) id

theorem Frame.setLow (hold : Low (s.status c)) (hnew : Low st)
    (hpend : l.ct = some c → s.status c ≠ .pendingRef) : Frame s (s.setStatus c st) g g u l := by
  refine ⟨le_rfl,fun _ _ _ _ => id,fun _ _ _ => id,fun _ _ => id,?_,
    fun _ _ _ => id,fun c' _ _ hok => hok.setLow hold hnew⟩
  intro c' _ hc' hp
  have hcc : c' ≠ c := by
    rintro rfl
    exact hpend hc' hp
  exact ⟨by simpa [setStatus_status, hcc] using hp,fun _ => Iff.rfl⟩

section
variable (h : Base env s g logs) (ht : logs t = some l)
include h ht

theorem Base.setStatus
    (huse : nat4CtStatusUsable st = true → c.val.isStatic = false → ∃ m, c ∈ g.holders m)
    (hidle : (s.bpfTimer c).running = false → Idle (s.setStatus c st) g c)
    (hframe : ∀ u x, u ≠ t → logs u = some x → Frame s (s.setStatus c st) g g u x)
    (hclean : ∀ k e m, s.egress k = some e →
      g.owner (nat4FreePortQueue e.key.l4proto) e.val.port = .closed c m → s.status c ≠ .cleanStart)
    (hq : Quiet l l') (heg : l'.eg = l.eg) (hl : Local env (s.setStatus c st) g t l') :
    Base env (s.setStatus c st) g (update logs t (some l')) := by
  refine { h with
    usable := ?_, idle := ?_, threads := forall_update hl ?_, egressHeld := ?_
    callbackUnique := unique_keep h.callbackUnique ht hq.callback
    ctUnique := unique_keep h.ctUnique ht hq.ct
    mineUnique := unique_keep h.mineUnique ht hq.mine
    threadOwner := fun q p u hu => (h.threadOwner q p u hu).quiet ht hq }
  · intro c' hu hst
    rw [setStatus_status] at hu
    split at hu
    · rename_i hc
      subst hc
      exact huse hu hst
    · exact h.usable c' hu hst
  · intro c' hc' hr
    by_cases hc : c' = c
    · exact hc ▸ hidle (hc ▸ hr)
    · exact (h.idle c' hc' hr).frame (by simp [setStatus_status, hc]) (fun _ => id) id
  · intro u x hu hx
    exact (h.threads u x hx).frame (hframe u x hu hx)
  · intro k e he
    refine (h.egressHeld k e he).relog ht rfl ?_ hq.callback hq.mine heg
    intro c' m ho hcl
    have hcc : c' ≠ c := by
      rintro rfl
      exact hclean k e m he ho hcl
    simpa [setStatus_status, hcc] using hcl

/- An entry moves between statuses before the clean-up, and holds a reference once usable. -/
theorem Base.setLow (hold : Low (s.status c)) (hnew : Low st)
    (huse : nat4CtStatusUsable st = true → c.val.isStatic = false → ∃ m, c ∈ g.holders m)
    (hpend : ∀ u x, u ≠ t → logs u = some x → x.ct = some c → s.status c ≠ .pendingRef)
    (hq : Quiet l l') (heg : l'.eg = l.eg) (hl : Local env (s.setStatus c st) g t l') :
    Base env (s.setStatus c st) g (update logs t (some l')) := by
  refine h.setStatus ht huse (fun _ => Idle.of_low (by simpa [setStatus_status] using hnew))
    (fun u x hu hx => Frame.setLow hold hnew (hpend u x hu hx)) ?_ hq heg hl
  intro _ _ _ _ _ hcl
  rw [hcl] at hold
  exact absurd hold (by decide)

theorem base_casStatus_usable (hold : nat4CtStatusUsable (s.status c) = true)
    (hnew : nat4CtStatusUsable new = true)
    (hcb : l.callback = none ∨ (l.Fresh ∧ s.status c ≠ .release)) :
    Base env (s.setStatus c new) g
      (update logs t (some (record l (.casStatus c (s.status c) new) true))) := by
  have hloc := h.threads t l ht
  have hnp : s.status c ≠ .pendingRef := by
    intro hp
    rw [hp] at hold
    exact absurd hold (by decide)
  have hloc' : Local env (s.setStatus c new) g t l :=
    hloc.frame (Frame.setLow (low_of_usable hold) (low_of_usable hnew) fun _ => hnp)
  refine h.setLow ht (low_of_usable hold) (low_of_usable hnew) (fun _ => h.usable c hold)
    (fun _ _ _ _ _ => hnp) ?_ ?_ ?_
  · simp only [record, Log.onCasStatus]
    split <;> exact ⟨.inl rfl,.inl rfl,.inl rfl,rfl⟩
  · simp only [record, Log.onCasStatus]
    split <;> rfl
  · simp only [record, Log.onCasStatus]
    split
    · rename_i hc
      rcases hcb with hcb | ⟨hf,hrel⟩
      · simp [hcb] at hc
      · refine { hloc' with callback := ?_ }
        intro c' hc'
        obtain ⟨h1,h2,h3,hok⟩ := hloc'.callback c' hc'
        have hrf : (l.released || s.status c == .release) = false := by
          simp [hf.released, hrel]
        have hdf : (l.detached && s.status c != .deleteIngress) = false := by
          simp [hf.detached]
        refine ⟨h1,h2,h3,?_,?_,?_,?_,?_,?_,hok.gone⟩
        · intro _ hg _ hp
          exact hok.idle (by simp [hf.released]) hg hf.detached hp
        · rintro _ _ st ⟨⟩ hst
          exact absurd (low_of_usable hnew) (not_low hst)
        · simp [hrf]
        · simp [hrf]
        · rintro _ ⟨⟩
          exact absurd hnew (by decide)
        · simp [hdf]
    · exact hloc'

theorem Base.setOwn {b d : Bool} (hcb : l.callback = some c) (hnp : s.status c ≠ .pendingRef)
    (hnu : nat4CtStatusUsable new = false) (heg : s.status c = .cleanStart → l.eg = none)
    (hok : CallbackOk (s.setStatus c new) g c
      { l with status := some new, released := b, detached := d }) :
    Base env (s.setStatus c new) g
      (update logs t (some { l with status := some new, released := b, detached := d })) := by
  have hloc := h.threads t l ht
  obtain ⟨hid,hrun,hmine,-⟩ := hloc.callback c hcb
  have hF : ∀ u x, x.callback ≠ some c → Frame s (s.setStatus c new) g g u x := by
    intro u x hxc
    refine ⟨le_rfl,fun _ _ _ _ => id,fun _ _ _ => id,fun _ _ => id,?_,fun _ _ _ => id,?_⟩
    · intro c' _ _ hp
      have hcc : c' ≠ c := by
        rintro rfl
        exact hnp hp
      exact ⟨by simpa [setStatus_status, hcc] using hp,fun _ => Iff.rfl⟩
    · intro c' _ hc' hok'
      have hcc : c' ≠ c := by
        rintro rfl
        exact hxc hc'
      exact hok'.frame (by simp [setStatus_status, hcc]) (fun _ => id) id (fun _ => id) id
  refine h.setStatus ht (by simp [hnu]) (by simp [hrun]) ?_ ?_
    ⟨.inl rfl,.inl rfl,.inl rfl,rfl⟩ rfl ?_
  · intro u x hu hx
    refine hF u x ?_
    intro hxc
    exact hu (h.callbackUnique u t x l c hx ht hxc hcb)
  · intro k e m he ho hcl
    have hheld := h.egressHeld k e he
    simp only [EgressHeld, ho] at hheld
    have heg' := hheld.2.2.2 t l ht hcb
    simp [heg hcl] at heg'
  · refine { hloc.dropCallback.frame (hF t _ (by simp)) with callback := ?_ }
    intro c' hc'
    obtain rfl := some.inj (hcb.symm.trans hc')
    exact ⟨hid,hrun,hmine,hok⟩

theorem base_casStatus_own (hcb : l.callback = some c) (hrel : l.released = false)
    (hpu : l.pushed = false) (hgo : l.gone = false)
    (hcase : (s.status c = .release ∧ new = .cleanStart ∧ l.found = none ∧ l.detached = false ∧
        l.closed = false) ∨
      (s.status c = .cleanStart ∧ new = .deleteIngress ∧ l.status = some .cleanStart ∧ l.eg = none ∧
        l.found = none ∧ l.detached = false) ∨
      (s.status c = .deleteIngress ∧ new = .pushQueue ∧ l.status = some .deleteIngress ∧
        l.detached = true)) : Base env (s.setStatus c new) g
      (update logs t (some (record l (.casStatus c (s.status c) new) true))) := by
  have hok := ((h.threads t l ht).callback c hcb).2.2.2
  have hl' : record l (.casStatus c (s.status c) new) true =
      { l with
        status := some new
        released := l.released || s.status c == .release
        detached := l.detached && s.status c != .deleteIngress } := by
    simp [record, Log.onCasStatus, hcb]
  have hst : (s.setStatus c new).status c = new := by simp [setStatus_status]
  rw [hl']
  rcases hcase with ⟨hs,rfl,hf,hd,hcl⟩ | ⟨hs,rfl,hls,heg,hf,hd⟩ | ⟨hs,rfl,hls,hd⟩
  · refine h.setOwn ht hcb (by simp [hs]) (by decide) (by simp [hs]) ?_
    simp only [hrel, hs, hd, Bool.false_or, Bool.false_and]
    constructor
    case releasing => exact fun _ => hst
    case holding =>
      intro _ _ _ _ hdyn
      obtain ⟨m,hm⟩ := h.usable c (by rw [hs]; decide) hdyn
      exact ⟨m,hm,by simp [hf]⟩
    all_goals simp [hcl, hgo]
  · refine h.setOwn ht hcb (by simp [hs]) (by decide) (fun _ => heg) ?_
    obtain ⟨m,hm⟩ := (hok.idle (by simp [hrel]) hgo hd hpu).1 (.inl hs)
    simp only [hrel, hs, hd, Bool.false_or, Bool.false_and]
    constructor
    case idle =>
      intro _ _ _ _
      refine ⟨fun _ => ⟨m,hm⟩,?_⟩
      simp [hst]
    case current =>
      rintro _ _ st ⟨⟩ _
      exact hst
    all_goals simp [hf, hgo]
  · refine h.setOwn ht hcb (by simp [hs]) (by decide) (by simp [hs]) ?_
    have hp := hok.detached hd hgo
    simp only [hrel, hs, hd, Bool.false_or, Bool.true_and]
    constructor
    case idle =>
      intro _ _ _ _
      refine ⟨?_,fun _ => hp⟩
      rintro (hc | hc) <;> simp [hst] at hc
    case current =>
      rintro _ _ st ⟨⟩ _
      exact hst
    all_goals simp [hgo]

theorem base_casStatus {old : TimerStatus} (ha : Allowed env l (.casStatus c old new)) :
    After (Base env) s g logs t l (.casStatus c old new) := by
  by_cases hold : s.status c = old
  · subst hold
    unfold After
    have hx : exec (.casStatus c (s.status c) new) s = (true, s.setStatus c new) := by simp [exec]
    rw [hx]
    rcases ha with ⟨h1,h2,h3⟩ | ⟨h1,h2,h3,h4,h5⟩
    · exact base_casStatus_usable h ht h1 h2 h3
    · exact base_casStatus_own h ht h1 h2 h3 h4 h5
  · rw [after_casStatus_fail hold]
    exact h.silent ht (.rfl s) rfl

theorem base_storeStatus (ha : Allowed env l (.storeStatus c st)) :
    After (Base env) s g logs t l (.storeStatus c st) := by
  obtain ⟨hcb,rfl,hct,hcount⟩ := ha
  have hloc := h.threads t l ht
  obtain ⟨hid,hst,m,hf,hb,hin,-⟩ := hloc.ct c hct
  have hlow : Low (s.status c) := by rw [hst]; decide
  have hl : Local env s g t { l with ct := none, counted := false } := by
    exact { hloc with ct := by simp, callback := by simp [hcb] }
  refine h.setLow ht hlow (by decide) (fun _ _ => ⟨m,hin hcount⟩) ?_
    ⟨.inl rfl,.inr rfl,.inl rfl,rfl⟩ rfl (hl.frame (Frame.setLow hlow (by decide) (by simp)))
  intro u x hu hx hxc
  exact absurd (h.ctUnique u t x l c hx ht hxc hct) hu

end

theorem exec_timerInsert (v : TimerValue) (hk : s.timer k = none) :
    exec (.timerInsert k v) s = (some ⟨s.nextId,k,v⟩, { s with
      nextId := s.nextId + 1
      timer := update s.timer k (some ⟨s.nextId,k,v⟩)
      status := update s.status ⟨s.nextId,k,v⟩ v.status
      serverStatus := update s.serverStatus ⟨s.nextId,k,v⟩ v.serverStatus
      clientStatus := update s.clientStatus ⟨s.nextId,k,v⟩ v.clientStatus
      bpfTimer := update s.bpfTimer ⟨s.nextId,k,v⟩ ⟨false,false,false⟩ }) := by
  simp [exec, State.insertTimer, hk]

section Insert
variable {v : TimerValue}

/-- The entry a lookup has given is older than the one the next insertion makes. -/
theorem ne_next (hid : c.id < s.nextId) : c ≠ ⟨s.nextId,k,v⟩ := by
  rintro rfl
  exact lt_irrefl _ hid

theorem Frame.timerInsert (hk : s.timer k = none) :
    Frame s (exec (.timerInsert k v) s).2 g g u l := by
  rw [exec_timerInsert v hk]
  refine ⟨Nat.le_succ _,fun _ _ _ _ => id,fun _ _ _ => id,fun _ _ => id,?_,?_,?_⟩
  · intro c hid _ hp
    exact ⟨by simpa [ne_next hid] using hp,fun _ => Iff.rfl⟩
  · intro c hid _ hr
    simpa [ne_next hid] using hr
  · intro c hid _ hok
    refine hok.frame (by simp [ne_next hid]) (fun _ => id) id (fun _ => id) ?_
    intro hc
    rcases Table.update_eq_some hc with ⟨-,hc⟩ | ⟨-,hc⟩
    · exact absurd (some.inj hc).symm (ne_next hid)
    · exact hc

theorem AllowedTimerInsert.low (ha : AllowedTimerInsert env l k v) : Low v.status := by
  obtain ⟨-,-,-,⟨-,hst,-⟩ | ⟨hst,-⟩⟩ := ha <;> rw [hst] <;> decide

theorem AllowedTimerInsert.isStatic_of_usable (ha : AllowedTimerInsert env l k v)
    (hu : nat4CtStatusUsable v.status = true) : v.isStatic = true := by
  obtain ⟨-,-,-,⟨hs,-⟩ | ⟨hst,-⟩⟩ := ha
  · exact hs
  · rw [hst] at hu
    exact absurd hu (by decide)

/-- A dynamic entry becomes the one its handler is about to count. -/
theorem record_timerInsert (c : Ct) : record l (.timerInsert k v) (some c) =
    if v.isStatic then l else { l with ct := some c } := by
  cases hst : v.isStatic <;> simp [record, hst]

variable (h : Base env s g logs) (ht : logs t = some l) (ha : AllowedTimerInsert env l k v)
  (hk : s.timer k = none)
include h ht ha hk

theorem Base.local_timerInsert : Local env (exec (.timerInsert k v) s).2 g t
    (record l (.timerInsert k v) (some ⟨s.nextId,k,v⟩)) := by
  obtain ⟨hcb,-,hcount,hkind⟩ := ha
  have hl : Local env (exec (.timerInsert k v) s).2 g t l :=
    (h.threads t l ht).frame (.timerInsert hk)
  rw [record_timerInsert]
  split
  · exact hl
  · rename_i hst
    refine { hl with ct := ?_, callback := ?_ }
    · rintro c ⟨⟩
      rcases hkind with ⟨hs,-⟩ | ⟨hpend,m,hm,hb⟩
      · exact absurd hs hst
      · rw [exec_timerInsert v hk]
        refine ⟨Nat.lt_succ_self _,by simpa using hpend,m,hm,hb _,?_,?_⟩
        · simp [hcount]
        · intro _ m' hm'
          exact lt_irrefl _ (h.holder _ m' hm').2.2
    · simp [hcb]

theorem base_timerInsert_new : After (Base env) s g logs t l (.timerInsert k v) := by
  have hx := exec_timerInsert v hk
  have hl := h.local_timerInsert ht ha hk
  unfold After
  set c : Ct := ⟨s.nextId,k,v⟩ with hcdef
  set l' := record l (.timerInsert k v) (some c) with hl'
  have hlog : l'.eg = l.eg ∧ l'.mine = l.mine ∧ l'.item = l.item ∧ l'.callback = l.callback ∧
      (l'.ct = none ∨ l'.ct = some c) := by
    rw [hl', record_timerInsert]
    split
    · exact ⟨rfl,rfl,rfl,rfl,.inl ha.2.1⟩
    · exact ⟨rfl,rfl,rfl,rfl,.inr rfl⟩
  obtain ⟨heg',hmine',hitem',hcb',hct'⟩ := hlog
  have hF : ∀ u x, Frame s (exec (.timerInsert k v) s).2 g g u x := fun _ _ => .timerInsert hk
  rw [hx] at hF hl ⊢
  have hn : Base env { s with nextId := s.nextId + 1 } g (update logs t (some l)) :=
    h.silent ht { SameMaps.rfl s with nextId := Nat.le_succ _ } rfl
  refine ⟨hn.ingressKey,?_,h.egressKey,h.ingressOwner,h.mappedAt,h.mappedRef,hn.closedAt,
    hn.portAt,h.queueNodup,h.queueOwner,hn.holder,?_,?_,?_,forall_update hl ?_,
    unique_keep h.callbackUnique ht (.inl hcb'),unique_update h.ctUnique ?_,
    unique_keep h.mineUnique ht (.inl hmine'),?_,?_⟩
  · intro k' c' hc'
    rcases Table.update_eq_some hc' with ⟨rfl,hc'⟩ | ⟨-,hc'⟩
    · obtain rfl := some.inj hc'
      exact ⟨rfl,Nat.lt_succ_self _⟩
    · exact hn.timerKey k' c' hc'
  · intro c' hu hst
    by_cases hcc : c' = c
    · subst hcc
      simp only [update_self] at hu
      have hst' : v.isStatic = false := hst
      simp [ha.isStatic_of_usable hu] at hst'
    · exact h.usable c' (by simpa [hcc] using hu) hst
  · intro c' hc' hr
    by_cases hcc : c' = c
    · subst hcc
      exact Idle.of_low (by simpa using ha.low)
    · rcases Table.update_eq_some hc' with ⟨-,hc'⟩ | ⟨-,hc'⟩
      · exact absurd (some.inj hc').symm hcc
      · exact (h.idle c' hc' (by simpa [hcc] using hr)).frame (by simp [hcc]) (fun _ => id) id
  · intro k' c' hc' hst
    rcases Table.update_eq_some hc' with ⟨rfl,hc'⟩ | ⟨-,hc'⟩
    · obtain rfl := some.inj hc'
      obtain ⟨-,-,-,⟨-,-,hres⟩ | ⟨-,m,-,hb⟩⟩ := ha
      · exact hres
      · have hdyn := (hb 0).dynamic
        simp [show v.isStatic = true from hst] at hdyn
    · exact h.static k' c' hc' hst
  · intro u x _ hx
    exact (h.threads u x hx).frame (hF u x)
  · intro c' u x hc' hu hxu hxc
    rcases hct' with hct' | hct' <;> rw [hct'] at hc' <;> cases hc'
    exact ne_next ((h.threads u x hxu).ct c hxc).1 rfl
  · intro k' e he
    refine (h.egressHeld k' e he).relog ht rfl ?_ (.inl hcb') (.inl hmine') heg'
    intro c' m ho hcl
    have hne : c' ≠ c := ne_next (h.closedAt _ _ c' m ho).2.2.2.2.1
    simpa [hne] using hcl
  · intro q p u hu
    exact (h.threadOwner q p u hu).relog ht
      fun _ h1 h2 => ⟨hcb'.trans h1,hmine'.trans h2,hitem'⟩

end Insert

theorem base_timerInsert (h : Base env s g logs) (ht : logs t = some l) {v : TimerValue}
    (ha : Allowed env l (.timerInsert k v)) : After (Base env) s g logs t l (.timerInsert k v) := by
  cases hk : s.timer k with
  | some c =>
    rw [after_timerInsert_some hk]
    exact h.silent ht (.rfl s) rfl
  | none => exact base_timerInsert_new h ht ha hk

theorem deleteTimer_timer {k' : TimerKey} (h : (s.deleteTimer k).timer k' = some c) :
    k' ≠ k ∧ s.timer k' = some c := by
  unfold State.deleteTimer at h
  split at h
  · rename_i hk
    refine ⟨?_,h⟩
    rintro rfl
    simp [hk] at h
  · exact Table.of_update_none h

theorem deleteTimer_shrinks (k : TimerKey) :
    Shrinks s (s.deleteTimer k) ∧ (s.deleteTimer k).egress = s.egress := by
  refine ⟨⟨?_,?_,fun k' c hc => (deleteTimer_timer hc).2,?_,?_,?_,?_⟩,?_⟩
  case refine_6 =>
    intro c'
    unfold State.deleteTimer
    split
    · rfl
    · rename_i c _
      by_cases hc : c' = c
      · subst hc
        simp
      · simp [hc]
  all_goals
    unfold State.deleteTimer
    split <;> simp

theorem base_timerDelete (h : Base env s g logs) (ht : logs t = some l)
    (ha : Allowed env l (.timerDelete k)) : After (Base env) s g logs t l (.timerDelete k) := by
  obtain ⟨E,hegress⟩ := deleteTimer_shrinks (s := s) k
  have hl : Local env (s.deleteTimer k) g t l := by
    refine (h.threads t l ht).frame (Frame.of_same E.nextId E.stateRef E.status E.timer ?_)
    intro c _ hc
    rw [E.running]
    exact hc
  simp only [Allowed, AllowedTimerDelete] at ha
  unfold After
  cases hcb : l.callback with
  | none =>
    have hl' : record l (.timerDelete k) () = { l with ct := none } := by simp [record, hcb]
    rw [show (exec (.timerDelete k) s).1 = () from rfl, hl']
    refine h.relog ht E hegress ⟨.inl rfl,.inr rfl,.inl rfl,rfl⟩ rfl
      { hl with ct := ?_, callback := ?_ }
    · simp
    · simp [hcb]
  | some c =>
    have hl' : record l (.timerDelete k) () = { l with gone := true } := by simp [record, hcb]
    simp only [hcb] at ha
    obtain ⟨rfl,hd,hcl,hgo,-⟩ := ha
    rw [show (exec (.timerDelete c.key) s).1 = () from rfl, hl']
    refine h.relog ht E hegress ⟨.inl rfl,.inl rfl,.inl rfl,rfl⟩ rfl { hl with callback := ?_ }
    intro c' hc'
    obtain rfl := some.inj (hcb.symm.trans hc')
    obtain ⟨h1,h2,h3,hok⟩ := hl.callback c hcb
    refine ⟨h1,h2,h3,?_⟩
    constructor
    case releasing => exact hok.releasing
    case gone =>
      intro _ hc
      exact (deleteTimer_timer hc).1 rfl
    all_goals simp

end Landscape.Nat4
