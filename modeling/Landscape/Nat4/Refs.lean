import Landscape.Nat4.Moves

/-! Ownership is kept by every access: the reference word of a mapping and the status of an
entry. -/
namespace Landscape.Nat4
open Function Finset
variable {env : Env} {s : State} {g : Ghost} {logs : Nat → Option Log} {t u : Nat}
  {l l' : Log} {r : Nat}

theorem nat4StateMake_inj {a b x y : Nat} (hx : x < 2 ^ 56) (hy : y < 2 ^ 56)
    (h : nat4StateMake a x = nat4StateMake b y) : x = y := by
  rw [nat4StateMake_eq a hx, nat4StateMake_eq b hy] at h
  omega

theorem nat4StateMake_active_ne_zero (hr : r < 2 ^ 56) (hpos : 0 < r) :
    nat4StateMake nat4StateActive r ≠ nat4StateMake nat4StateActive 0 := by
  intro heq
  have := nat4StateMake_inj hr (by decide) heq
  omega

theorem nat4RefGet_succ_lt {sr : Nat} (h : nat4RefGet sr ≠ nat4RefMask) :
    nat4RefGet sr + 1 < 2 ^ 56 := by
  have hlt := nat4RefGet_lt sr
  simp only [nat4RefMask] at h
  omega

variable {m : Mapping} {c : Ct} {new : Nat} {H : Finset Ct} {old : Nat}

theorem Base.ref_of_active (h : Base env s g logs) (hl : Live s g m)
    (ha : nat4StateGet (s.stateRef m) = nat4StateActive) : mapOwner g m = .mapped m ∧
      s.stateRef m = nat4StateMake nat4StateActive (nat4RefGet (s.stateRef m)) ∧
      (g.holders m).card ≤ nat4RefGet (s.stateRef m) := by
  have ho : mapOwner g m = .mapped m := by
    rcases hl with ho | hc
    · exact ho
    · rw [ha] at hc
      exact absurd hc (by decide)
  obtain ⟨r,hr,hlt,hcard⟩ := h.mappedRef m ho
  have href : nat4RefGet (s.stateRef m) = r := by
    rw [hr]
    exact nat4RefGet_make _ hlt
  rw [href]
  exact ⟨ho,hr,hcard⟩

theorem Frame.recount (ho : mapOwner g m = .mapped m) (hr : r < 2 ^ 56) (hpos : 0 < r)
    (hct : ∀ c, l.ct = some c → s.status c = .pendingRef →
      ∀ m', c ∈ update g.holders m H m' ↔ c ∈ g.holders m')
    (hcb : ∀ c, l.callback = some c → ∀ m', c ∈ g.holders m' → c ∈ update g.holders m H m') :
    Frame s { s with stateRef := update s.stateRef m (nat4StateMake nat4StateActive r) } g
      { g with holders := update g.holders m H } u l := by
  refine ⟨le_rfl,fun _ _ _ _ => id,?_,?_,fun c _ hc hst => ⟨hst,hct c hc hst⟩,fun _ _ _ => id,
    fun c _ hc hok => hok.frame rfl (fun _ => id) id (hcb c hc) id⟩
  · intro m' _ _ hlive
    by_cases hm : m' = m
    · exact .inl (hm ▸ ho)
    · simpa [Live, mapOwner, hm] using hlive
  · intro m' _ hnz
    by_cases hm : m' = m
    · simpa [hm] using nat4StateMake_active_ne_zero hr hpos
    · simpa [hm] using hnz

/- The word of a mapping in force changes, and with it who holds a reference; the owners of
   the ports stay. -/
theorem Base.recount (h : Base env s g logs) (ht : logs t = some l)
    (ho : mapOwner g m = .mapped m) (hr : r < 2 ^ 56) (hpos : 0 < r) (hcard : H.card ≤ r)
    (hH : ∀ c ∈ H, Belongs c m ∧ c.id < s.nextId)
    (hkeep : ∀ c ∈ g.holders m, c ∉ H → l.callback = some c ∧ s.status c = .cleanStart)
    (hnew : ∀ c ∈ H, c ∉ g.holders m → l.ct = some c) (hq : Quiet l l') (heg : l'.eg = l.eg)
    (hl : Local env { s with stateRef := update s.stateRef m (nat4StateMake nat4StateActive r) }
      { g with holders := update g.holders m H } t l') :
    Base env { s with stateRef := update s.stateRef m (nat4StateMake nat4StateActive r) }
      { g with holders := update g.holders m H } (update logs t (some l')) := by
  have hholders : ∀ {c m'}, c ∈ update g.holders m H m' → l.ct ≠ some c → c ∈ g.holders m' := by
    intro c m' hc hct
    by_cases hm : m' = m
    · subst hm
      simp only [update_self] at hc
      by_contra hno
      exact hct (hnew c hc hno)
    · simpa [hm] using hc
  have hholders' : ∀ {c m'}, c ∈ g.holders m' → (l.callback = some c → s.status c ≠ .cleanStart) →
      c ∈ update g.holders m H m' := by
    intro c m' hc hst
    by_cases hm : m' = m
    · subst hm
      simp only [update_self]
      by_contra hno
      obtain ⟨h1,h2⟩ := hkeep c hc hno
      exact hst h1 h2
    · simpa [hm] using hc
  refine { h with
    mappedRef := ?_, closedAt := ?_, holder := ?_, usable := ?_, threads :=
      forall_update hl ?_, egressHeld := ?_
    callbackUnique := unique_keep h.callbackUnique ht hq.callback
    ctUnique := unique_keep h.ctUnique ht hq.ct
    mineUnique := unique_keep h.mineUnique ht hq.mine
    threadOwner := fun q p u hu => (h.threadOwner q p u hu).quiet ht hq }
  · intro m' hm'
    by_cases hm : m' = m
    · subst hm
      exact ⟨r,by simp,hr,by simpa using hcard⟩
    · simpa [hm] using h.mappedRef m' hm'
  · intro q p c m' hm'
    obtain ⟨h1,h2,h3,h4,h5,h6⟩ := h.closedAt q p c m' hm'
    have hm : m' ≠ m := by
      rintro rfl
      have hm'' : mapOwner g m' = .closed c m' := by
        rw [mapOwner, ← h1, ← h2]
        exact hm'
      simp [ho] at hm''
    exact ⟨h1,h2,h3,h4,h5,by simpa [hm] using h6⟩
  · intro c m' hc
    by_cases hm : m' = m
    · subst hm
      simp only [update_self] at hc
      exact ⟨ho,hH c hc⟩
    · exact h.holder c m' (by simpa [hm] using hc)
  · intro c hu hst
    obtain ⟨m',hm'⟩ := h.usable c hu hst
    refine ⟨m',hholders' hm' ?_⟩
    intro _ hcl
    have hu' : nat4CtStatusUsable (s.status c) = true := hu
    rw [hcl] at hu'
    exact absurd hu' (by decide)
  · intro u x hu hx
    refine (h.threads u x hx).frame (.recount ho hr hpos ?_ ?_)
    · intro c hc hst m'
      refine ⟨fun hm' => hholders hm' ?_,fun hm' => hholders' hm' ?_⟩
      · intro hct
        exact hu (h.ctUnique u t x l c hx ht hc hct)
      · simp [hst]
    · intro c hc m' hm'
      refine hholders' hm' fun hcb => ?_
      exact absurd (h.callbackUnique u t x l c hx ht hc hcb) hu
  · intro k e he
    exact (h.egressHeld k e he).relog ht rfl (fun _ _ _ => id) hq.callback hq.mine heg

/- The state and the owners once the callback of `c` has closed the mapping. -/
abbrev State.close (s : State) (m : Mapping) : State :=
  { s with stateRef := update s.stateRef m (nat4StateMake nat4StateClosed 1) }

abbrev Ghost.close (g : Ghost) (c : Ct) (m : Mapping) : Ghost :=
  { g.setOwner (nat4FreePortQueue m.key.l4proto) m.key.fromPort (.closed c m) with
    holders := update g.holders m ∅ }

theorem nat4StateGet_closed :
    nat4StateGet (nat4StateMake nat4StateClosed 1) = nat4StateClosed :=
  nat4StateGet_make (by decide) (by decide)

section
variable {I : State → Ghost → (Nat → Option Log) → Prop}

theorem after_cas_fail (hne : s.stateRef m ≠ old) :
    After I s g logs t l (.casStateRef m old new) = I s g (update logs t (some l)) := by
  simp [After, exec, ghostNext, record, Log.onCasStateRef, hne]

/- What a successful compare-and-swap does: taking a reference, giving one back, closing. -/
theorem after_cas_inc (hcb : l.callback = none) (hc : l.ct = some c) :
    After I s g logs t l (.casStateRef m (s.stateRef m) new) =
      I { s with stateRef := update s.stateRef m new }
        { g with holders := update g.holders m (insert c (g.holders m)) }
        (update logs t (some { l with
          counted := true
          zero := l.zero && l.mine != some m
          unused := l.unused && l.mine != some m })) := by
  simp [After, exec, ghostNext, record, Log.onCasStateRef, hcb, hc]

theorem after_cas_dec (hcb : l.callback = some c) (hr : r < 2 ^ 56)
    (hnew : new = nat4StateMake nat4StateActive r) :
    After I s g logs t l (.casStateRef m (s.stateRef m) new) =
      I { s with stateRef := update s.stateRef m new }
        { g with holders := update g.holders m ((g.holders m).erase c) }
        (update logs t (some { l with gave := true })) := by
  have hactive : nat4StateGet new ≠ nat4StateClosed := by
    rw [hnew, nat4StateGet_make (by decide) hr]
    decide
  simp [After, exec, ghostNext, record, Log.onCasStateRef, Ghost.drop, hcb, hactive]

theorem after_cas_close (hcb : l.callback = some c) :
    After I s g logs t l (.casStateRef m (s.stateRef m) (nat4StateMake nat4StateClosed 1)) =
      I (s.close m) (g.close c m) (update logs t (some { l with closed := true })) := by
  simp [After, exec, ghostNext, record, Log.onCasStateRef, Ghost.drop, hcb, nat4StateGet_closed,
    State.close, Ghost.close]

end

theorem Local.recount (hloc : Local env s g t l)
    (ho : mapOwner g m = .mapped m) (hr : r < 2 ^ 56) (hpos : 0 < r)
    (hct : ∀ c, l.ct = some c → s.status c = .pendingRef →
      ∀ m', c ∈ update g.holders m H m' ↔ c ∈ g.holders m') :
    Local env { s with stateRef := update s.stateRef m (nat4StateMake nat4StateActive r) }
      { g with holders := update g.holders m H } t { l with callback := none } :=
  hloc.dropCallback.frame (.recount ho hr hpos hct (by simp))

/-- `nat4_state_try_inc` takes a reference for the pending entry. -/
theorem base_cas_inc (h : Base env s g logs) (ht : logs t = some l) (hcb : l.callback = none)
    (ha : AllowedCasStateRef l m (s.stateRef m) new) :
    After (Base env) s g logs t l (.casStateRef m (s.stateRef m) new) := by
  simp only [AllowedCasStateRef, hcb] at ha
  obtain ⟨⟨c,hc⟩,hcount,hf,hact,hmask,rfl⟩ := ha
  have hloc := h.threads t l ht
  obtain ⟨ho,hsr,hcard⟩ := h.ref_of_active (hloc.found m hf).2 hact
  obtain ⟨hid,hst,m',hf',hb,-,hnot⟩ := hloc.ct c hc
  obtain rfl := Option.some.inj (hf'.symm.trans hf)
  set r := nat4RefGet (s.stateRef m') with hrdef
  have hr : r + 1 < 2 ^ 56 := nat4RefGet_succ_lt hmask
  rw [after_cas_inc hcb hc]
  refine h.recount ht ho hr (Nat.succ_pos r) ?_ ?_ ?_ ?_ ⟨.inl rfl,.inl rfl,.inl rfl,rfl⟩ rfl ?_
  · exact (card_insert_le _ _).trans (Nat.succ_le_succ hcard)
  · intro c' hc'
    rcases mem_insert.mp hc' with rfl | hc'
    · exact ⟨hb,hid⟩
    · exact (h.holder c' m' hc').2
  · intro c' hc' hno
    exact absurd (mem_insert_of_mem hc') hno
  · intro c' hc' hno
    rcases mem_insert.mp hc' with rfl | hc'
    · exact hc
    · exact absurd hc' hno
  · have hl : Local env s g t { l with ct := none } := by
      exact { hloc with ct := by simp, callback := by simp [hcb] }
    refine { hl.recount (H := insert c (g.holders m')) ho hr (Nat.succ_pos r) (by simp) with
      nonzero := ?_, ct := ?_, callback := ?_ }
    · intro m hm hz
      by_cases hmm : m = m'
      · simpa [hmm] using nat4StateMake_active_ne_zero hr (Nat.succ_pos r)
      · have hz' : l.zero = false := by simpa [show l.mine = some m from hm, hmm] using hz
        simpa [hmm] using hloc.nonzero m hm hz'
    · intro c' hc'
      obtain rfl := Option.some.inj (hc.symm.trans hc')
      exact ⟨hid,hst,m',hf',hb,by simp,by simp⟩
    · simp [hcb]

section
variable (h : Base env s g logs) (ht : logs t = some l) (hr : l.Releasing c m)
include h ht hr

theorem Base.holds_found :
    c ∈ g.holders m ∧ mapOwner g m = .mapped m ∧ Belongs c m ∧ s.status c = .cleanStart := by
  have hok := ((h.threads t l ht).callback c hr.callback).2.2.2
  obtain ⟨m',hm',hf'⟩ := hok.holding hr.released hr.closed hr.gave hr.gone hr.dynamic
  rw [← hf' m hr.found] at hm'
  obtain ⟨ho,hb,-⟩ := h.holder c m hm'
  exact ⟨hm',ho,hb,hok.releasing hr.released⟩

/-- `nat4_state_try_dec` gives the reference of the released entry back. -/
theorem base_cas_dec (hact : nat4StateGet (s.stateRef m) = nat4StateActive)
    (h2 : 2 ≤ nat4RefGet (s.stateRef m))
    (hnew : new = nat4StateMake nat4StateActive (nat4RefGet (s.stateRef m) - 1)) :
    After (Base env) s g logs t l (.casStateRef m (s.stateRef m) new) := by
  have hloc := h.threads t l ht
  obtain ⟨hid,hrun,hmine,hok⟩ := hloc.callback c hr.callback
  obtain ⟨hmem,-,-,hstat⟩ := h.holds_found ht hr
  obtain ⟨ho,hsr,hcard⟩ := h.ref_of_active (hloc.found m hr.found).2 hact
  set r := nat4RefGet (s.stateRef m) with hrdef
  have hlt : r - 1 < 2 ^ 56 := by
    have h1 := nat4RefGet_lt (s.stateRef m)
    omega
  have hpos : 0 < r - 1 := by omega
  rw [after_cas_dec hr.callback hlt hnew, hnew]
  refine h.recount ht ho hlt hpos ?_ ?_ ?_ ?_ ⟨.inl rfl,.inl rfl,.inl rfl,rfl⟩ rfl ?_
  · rw [card_erase_of_mem hmem]
    exact Nat.sub_le_sub_right hcard 1
  · intro c' hc'
    exact (h.holder c' m (mem_of_mem_erase hc')).2
  · intro c' hc' hno
    have heq : c' = c := by
      by_contra hne
      exact hno (mem_erase.mpr ⟨hne,hc'⟩)
    exact heq ▸ ⟨hr.callback,hstat⟩
  · intro c' hc' hno
    exact absurd (mem_of_mem_erase hc') hno
  · refine { hloc.recount (H := (g.holders m).erase c) ho hlt hpos ?_ with callback := ?_ }
    · intro c' _ hpend m'
      have hne : c' ≠ c := by
        rintro rfl
        simp [hstat] at hpend
      by_cases hm : m' = m
      · subst hm
        simp [hne]
      · simp [hm]
    · intro c' hc'
      obtain rfl := Option.some.inj (hr.callback.symm.trans hc')
      refine ⟨hid,hrun,hmine,?_,hok.current,hok.releasing,?_,?_,hok.detached,hok.gone⟩
      · intro hrc
        have hcl' := hrc hr.released
        simp [hr.closed] at hcl'
      · simp
      · simp [hr.released]

section Close
variable (hold : s.stateRef m = nat4StateMake nat4StateActive 1)

section
include hold

/-- The reference the callback gives back is the last one. -/
theorem Base.sole_holder {c' : Ct} (hc' : c' ∈ g.holders m) : c' = c := by
  obtain ⟨hmem,ho,-,-⟩ := h.holds_found ht hr
  obtain ⟨r,href,hlt,hcard⟩ := h.mappedRef m ho
  have hr1 := nat4StateMake_inj (by decide) hlt (hold.symm.trans href)
  exact card_le_one.mp (by omega) c' hc' c hmem

theorem Base.frame_close :
    Frame s (s.close m) g (g.close c m) t { l with callback := none } := by
  obtain ⟨-,ho,-,hstat⟩ := h.holds_found ht hr
  have hX : g.owner (nat4FreePortQueue m.key.l4proto) m.key.fromPort = .mapped m := ho
  refine ⟨le_rfl,fun _ _ _ _ hth => setOwner_of_ne hth (by simp [hX]),?_,?_,?_,
    fun _ _ _ => id,by simp⟩
  · intro m' _ _ hm'
    by_cases hm : m' = m
    · exact .inr (by simpa [hm] using nat4StateGet_closed)
    · refine hm'.imp (fun hm' => setOwner_of_ne hm' ?_) fun hm' => by simpa [hm] using hm'
      simpa [hX] using Ne.symm hm
  · intro m' _ hm'
    by_cases hm : m' = m
    · simpa [hm] using nat4StateMake_active_zero_ne.symm
    · simpa [hm] using hm'
  · intro c' _ _ hpend
    refine ⟨hpend,fun m' => ?_⟩
    by_cases hm : m' = m
    · subst hm
      have hno : c' ∉ g.holders m' := by
        intro hc'
        rw [h.sole_holder ht hr hold hc', hstat] at hpend
        cases hpend
      simp [hno]
    · simp [hm]

theorem Base.local_close :
    Local env (s.close m) (g.close c m) t { l with closed := true } := by
  have hloc := h.threads t l ht
  obtain ⟨hid,hrun,hmine,hok⟩ := hloc.callback c hr.callback
  obtain ⟨-,ho,hb,hstat⟩ := h.holds_found ht hr
  refine { hloc.dropCallback.frame (h.frame_close ht hr hold) with callback := ?_ }
  intro c' hc'
  obtain rfl := Option.some.inj (hr.callback.symm.trans hc')
  refine ⟨hid,hrun,hmine,?_,hok.current,hok.releasing,?_,?_,?_,hok.gone⟩
  · intro _ _ _ _
    refine ⟨fun _ => ⟨m,?_⟩,?_⟩
    · rw [← hb.owner]
      exact setOwner_self
    · intro hpq
      have hpq' : s.status c = .pushQueue := hpq
      simp [hstat] at hpq'
  · simp
  · simp [hr.released]
  · intro hd hgo
    have hp := hok.detached hd hgo
    rw [← hb.owner g, ho] at hp
    cases hp

end

/-- The egress entry of the closed port is the one the callback has looked at. -/
theorem Base.egress_close {k : MappingKey} {e : EgressMapping} (he : s.egress k = some e) :
    EgressHeld (s.close m) (g.close c m) (update logs t (some { l with closed := true })) e := by
  obtain ⟨-,ho,hb,hstat⟩ := h.holds_found ht hr
  have hX : g.owner (nat4FreePortQueue m.key.l4proto) m.key.fromPort = .mapped m := ho
  have hheld := h.egressHeld k e he
  by_cases hp : nat4FreePortQueue e.key.l4proto = nat4FreePortQueue m.key.l4proto ∧
      e.val.port = m.key.fromPort
  · simp only [EgressHeld, hp.1, hp.2, hX] at hheld
    obtain ⟨hk,hadr,-⟩ := hheld
    simp only [EgressHeld, hp.1, hp.2, setOwner_self]
    refine ⟨hk,hadr,hstat,forall_update (P := fun _ x => x.callback = some c →
      x.eg = some (e.key, e.val.addr)) ?_ ?_⟩
    · intro _
      rw [hk, hadr]
      simpa [clientKey, ctClientKey, hb.key, ctMapKey, hb.addr, hb.port] using hr.eg
    · intro u x hu hx hxc
      exact absurd (h.callbackUnique u t x l c hx ht hxc hr.callback) hu
  · exact hheld.relog ht ((setOwner_owner g _ _ _ _ _).trans (if_neg hp)) (fun _ _ _ => id)
      (.inl rfl) (.inl rfl) rfl

include hold in
/-- `nat4_state_try_close_last`: the only holder closes the mapping and owns its port. -/
theorem base_cas_close : After (Base env) s g logs t l
      (.casStateRef m (s.stateRef m) (nat4StateMake nat4StateClosed 1)) := by
  have hid := ((h.threads t l ht).callback c hr.callback).1
  obtain ⟨-,ho,hb,hstat⟩ := h.holds_found ht hr
  have hX : g.owner (nat4FreePortQueue m.key.l4proto) m.key.fromPort = .mapped m := ho
  obtain ⟨-,-,hi,-⟩ := h.mappedAt _ _ m hX
  have hne : ∀ {m'}, m' ≠ m → (Owner.mapped m : Owner) ≠ .mapped m' := by
    intro m' hne heq
    exact hne (Owner.mapped.inj heq).symm
  rw [after_cas_close hr.callback]
  refine h.move ht
    { source := hX, owner := rfl, nextId := le_rfl, timer := rfl, status := rfl, bpfTimer := rfl
      egress := rfl
      fromThread := by simp
      fromCallback := by simp
      ingress := ?_
      kept := fun _ hm' _ _ => hm'
      stateRef := ?_
      nonzero := ?_
      holders := ?_
      lost := ?_
      toThread := by simp
      toMapped := by simp
      toClosed := ?_
      toPort := by simp
      queueNodup := h.queueNodup
      queueOwner := fun q v hv => setOwner_of_ne (h.queueOwner q v hv) (by simp [hX]) }
    { live := ?_
      own := h.local_close ht hr hold
      callback := .inl rfl
      ct := .inl rfl
      mine := unique_keep h.mineUnique ht (.inl rfl)
      held := fun k e he => h.egress_close ht hr he
      token := ?_ }
  · intro k m' hm'
    by_cases hm : m' = m
    · subst hm
      exact .inr ⟨(h.ingressKey k m' hm').1,(h.ingressKey k m' hm').2,.inr ⟨c,rfl⟩⟩
    · exact .inl ⟨hm',hne hm,by simp⟩
  · intro m' _ hm'
    have hm : m' ≠ m := fun hm => hm' (hm ▸ rfl)
    simp [hm]
  · rintro m' ⟨⟩ _
    simpa using nat4StateMake_active_zero_ne.symm
  · intro c' m'
    by_cases hm : m' = m
    · simp [hm]
    · simp [hm, hne hm]
  · rintro c' m' hc' ⟨⟩
    rw [h.sole_holder ht hr hold hc']
    exact ⟨hr.callback,hstat⟩
  · rintro c' m' ⟨⟩
    exact ⟨rfl,rfl,hi,hb,hid,by simp⟩
  · rintro u x m' - - - ⟨⟩
    exact .inr (by simpa using nat4StateGet_closed)
  · intro q p hu
    obtain ⟨-,hu⟩ := owner_of_setOwner hu (by simp)
    exact (h.threadOwner q p t hu).quiet ht ⟨.inl rfl,.inl rfl,.inl rfl,rfl⟩

end Close

end

theorem base_casStateRef (h : Base env s g logs) (ht : logs t = some l)
    (ha : Allowed env l (.casStateRef m old new)) :
    After (Base env) s g logs t l (.casStateRef m old new) := by
  by_cases hold : s.stateRef m = old
  · subst hold
    cases hcb : l.callback with
    | none => exact base_cas_inc h ht hcb ha
    | some c =>
      simp only [Allowed, AllowedCasStateRef, hcb] at ha
      obtain ⟨hr,⟨hone,rfl⟩ | ⟨hact,htwo,hnew⟩⟩ := ha
      · exact base_cas_close h ht hr hone
      · exact base_cas_dec h ht hr hact htwo hnew
  · rw [after_cas_fail hold]
    exact h.silent ht (.rfl s) rfl

end Landscape.Nat4
