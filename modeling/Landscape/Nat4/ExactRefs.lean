import Landscape.Nat4.Exact

/-! No port is lost: taking mappings back, references, conntrack entries and their statuses. -/
namespace Landscape.Nat4
open Function Finset
variable {env : Env} {cfg : NatConfig} {s s' : State} {g : Ghost} {logs : Nat → Option Log}
  {t u : Nat} {l l' : Log}

variable {m : Mapping} {c : Ct} {k : TimerKey} {new : Nat} {m' : Mapping} {q : PortQueue}
  {p : UInt16} {st : TimerStatus}

theorem Base.holder_unique (hb : Base env s g logs) (hm : c ∈ g.holders m)
    (hm' : c ∈ g.holders m') : m' = m := by
  obtain ⟨ho,hbel,-⟩ := hb.holder c m hm
  obtain ⟨ho',hbel',-⟩ := hb.holder c m' hm'
  rw [hbel.owner] at ho
  rw [hbel'.owner, ho] at ho'
  exact (Owner.mapped.inj ho').symm

theorem Rid.closed {m : Mapping} (h : Rid g c) (hb : Base env s g logs) :
    g.owner q p ≠ .closed c m := by
  intro ho
  obtain ⟨hq,hp,-,hbel,-⟩ := hb.closedAt q p c m ho
  refine h.2.1 m ?_
  rw [← hbel.owner, mapOwner, ← hq, ← hp]
  exact ho

theorem Rid.port (h : Rid g c) (hb : Base env s g logs) : g.owner q p ≠ .port c := by
  intro ho
  obtain ⟨hq,hp,-⟩ := hb.portAt q p c ho
  refine h.2.2 ?_
  rw [ctOwner, ← hq, ← hp]
  exact ho

def Loose (g : Ghost) (logs : Nat → Option Log) (t : Nat) (c : Ct) : Prop :=
  Rid g c ∧ ∀ u x m, u ≠ t → logs u = some x → x.ct = some c → x.found = some m →
    mapOwner g m ≠ .mapped m

theorem Base.rid_of_static (hb : Base env s g logs) (hst : c.val.isStatic = true) : Rid g c := by
  refine ⟨?_,?_,?_⟩
  · intro m hm
    simp [(hb.holder c m hm).2.1.dynamic] at hst
  · intro m hm
    simp [(hb.closedAt _ _ c m hm).2.2.2.1.dynamic] at hst
  · intro hm
    simp [(hb.portAt _ _ c hm).2.2.2] at hst

theorem Base.loose_stale (hb : Base env s g logs) {m : Mapping} (hin : s.ingress m.key = some m)
    (hk : m.key = ctMapKey c.key) (hgen : c.val.generationSnapshot ≠ m.val.generation) :
    Loose g logs t c := by
  have huniq : ∀ m', Belongs c m' → s.ingress m'.key ≠ some m' := by
    intro m' hbel hin'
    rw [hbel.key, ← hk, hin] at hin'
    cases hin'
    exact hgen hbel.gen
  refine ⟨⟨?_,?_,?_⟩,?_⟩
  · intro m' hm'
    obtain ⟨ho,hbel,-⟩ := hb.holder c m' hm'
    exact huniq m' hbel (hb.mappedAt _ _ m' ho).2.2.1
  · intro m' ho
    obtain ⟨-,-,hin',hbel,-⟩ := hb.closedAt _ _ c m' ho
    exact huniq m' hbel hin'
  · intro ho
    have hplace : mapOwner g m = ctOwner g c := by simp [mapOwner, ctOwner, hk, ctMapKey]
    rcases hb.ingressOwner _ m hin with hm | ⟨c',hm⟩
    · rw [hplace, ho] at hm
      cases hm
    · rw [hplace, ho] at hm
      cases hm
  · intro u x m' _ hxu hc hf ho
    obtain ⟨-,-,m'',hf',hbel,-⟩ := (hb.threads u x hxu).ct c hc
    cases hf.symm.trans hf'
    exact huniq m' hbel (hb.mappedAt _ _ m' ho).2.2.1

theorem deleteTimer_of_ne (hk : c.key ≠ k) (hc : Attached s c) : Attached (s.deleteTimer k) c := by
  unfold Attached State.deleteTimer
  split
  · exact hc
  · have hc' : s.timer c.key = some c := hc
    simpa [hk] using hc'

theorem mapped_of_setOwner {o : Owner}
    (h : mapOwner (g.setOwner (nat4FreePortQueue m.key.l4proto) m.key.fromPort o) m' = .mapped m')
    (ho : .mapped m' ≠ o) : m' ≠ m ∧ mapOwner g m' = .mapped m' := by
  obtain ⟨hne,h⟩ := owner_of_setOwner h ho
  refine ⟨?_,h⟩
  rintro rfl
  exact hne ⟨rfl,rfl⟩

section
variable (hx : Exact env cfg s g logs) (hb : Base env s g logs) (ht : logs t = some l)
include hx hb ht

theorem exact_ingressDelete_packet (hcb : l.callback = none) (hm : l.mine = some m)
    (hr : RollbackOk s logs t m) : After (Exact env cfg) s g logs t l (.ingressDelete m.key) := by
  obtain ⟨ho,-⟩ := hb.mapped_of_zero hr.1 hr.2.1
  rw [after_ingressDelete_packet hcb]
  refine hx.move ht rfl (fun _ _ hc => hc) rfl rfl (hx.queued_keep (by simp))
    (hx.count_keep (by simp)) ?_ ?_ (by simp)
    (by simp) (by simp) hb (by simp) ⟨?_,?_,?_,?_,?_⟩
  · intro m' ho' he
    obtain ⟨hne,ho'⟩ := mapped_of_setOwner ho' (by simp)
    refine made_update hx ht ho' he ?_
    intro hm'
    exact absurd (Option.some.inj (hm'.symm.trans hm)) hne
  · intro k m' hm'
    exact hx.ours k m' (Table.of_update_none hm').2
  · rintro c m' _ ⟨⟩
  all_goals
    simp [hcb]

theorem exact_ingressDelete_callback (hcb : l.callback = some c) (hf : l.Fresh)
    (hst : l.status = some .deleteIngress) (hfound : l.found.isSome) :
    After (Exact env cfg) s g logs t l (.ingressDelete (ctMapKey c.key)) := by
  obtain ⟨m,hm⟩ := Option.isSome_iff_exists.mp hfound
  obtain ⟨-,-,hmine,hok⟩ := (hb.threads t l ht).callback c hcb
  have h := hx.threads t l ht
  have hco := hok.closing hf.released hst hf.detached hf.gone m hm
  obtain ⟨-,-,hi,hbel,-⟩ := hb.closedAt _ _ c m hco
  obtain ⟨hat,hlow⟩ := hx.closing _ _ c m hco
  have hours : Ours env c.key.l4proto c.key.pairIp.dstAddr := by
    have := hx.ours _ m hi
    rw [hbel.key] at this
    exact this
  rw [after_ingressDelete_callback hcb]
  refine hx.move ht rfl (fun _ _ hc => hc) rfl rfl (hx.queued_keep (by simp))
    (hx.count_keep (by simp))
    (hx.made_keep ht (by simp) (by simp [hmine])) ?_ (by simp) ?_ (by simp) hb (by simp)
    ⟨?_,h.started,h.gave,h.pushed,?_⟩
  · intro k m' hm'
    by_cases hk : k = ctMapKey c.key
    · simp [hk] at hm'
    · exact hx.ours k m' (by simpa [hk] using hm')
  · rintro c' ⟨⟩
    exact ⟨hat,hlow,hcb,hours⟩
  · intro c' m' h1 h2 h3
    exact h.pending c' m' h1 h2 (owner_of_setOwner h3 (by simp)).2
  · rintro c' hc' _ (hgv | hpu)
    · have hrel := h.gave c' hc' hgv
      simp [hf.released] at hrel
    · simp [hf.pushed] at hpu

theorem Exact.recount {r : Nat} {H : Finset Ct} (ho : mapOwner g m = .mapped m) (hr : r < 2 ^ 56)
    (hpos : 0 < r) (hcard : H.card = r) (hH : ∀ c ∈ H, Attached s c)
    (hnew : ∀ c ∈ H, c ∉ g.holders m → l.ct = some c) (hmine : l'.mine = l.mine)
    (hzero : l.mine ≠ some m → l'.zero = l.zero)
    (hl : ExactLog s { g with holders := update g.holders m H } l') :
    Exact env cfg { s with stateRef := update s.stateRef m (nat4StateMake nat4StateActive r) }
      { g with holders := update g.holders m H } (update logs t (some l')) := by
  refine ⟨?_,?_,?_,hx.closing,hx.porting,hx.queued,hx.nobody,hx.ours,forall_update ?_ ?_⟩
  · intro m' ho'
    by_cases hm : m' = m
    · subst hm
      simp [hcard, nat4RefGet_make _ hr]
    · simpa [hm] using hx.count m' ho'
  · intro m' ho' he
    have hm : m' ≠ m := by
      rintro rfl
      simp only [update_self] at he
      rw [he, card_empty] at hcard
      omega
    refine made_update hx ht ho' (by simpa [hm] using he) ?_
    intro h1 h2
    refine ⟨hmine.trans h1,(hzero ?_).trans h2⟩
    intro h3
    exact hm (Option.some.inj (h1.symm.trans h3))
  · intro c m' hc
    by_cases hm : m' = m
    · subst hm
      exact hH c (by simpa using hc)
    · exact hx.held c m' (by simpa [hm] using hc)
  · exact ⟨hl.pending,hl.started,hl.gave,hl.pushed,hl.rid⟩
  · intro u x hu hxu
    have h := hx.threads u x hxu
    refine ⟨h.pending,h.started,h.gave,h.pushed,?_⟩
    intro c h1 h2 h3
    obtain ⟨hr1,hr2⟩ := h.rid c h1 h2 h3
    refine ⟨?_,hr2⟩
    intro m' hm'
    by_cases hm : m' = m
    · subst hm
      simp only [update_self] at hm'
      have hct := hnew c hm' (hr1 m')
      have hpend := ((hb.threads t l ht).ct c hct).2.1
      have hok := ((hb.threads u x hxu).callback c h1).2.2.2
      rcases h3 with hgv | hpu
      · have hst := hok.releasing (h.gave c h1 hgv)
        simp [hpend] at hst
      · obtain ⟨hst,hrel⟩ := h.pushed c h1 hpu
        have hcur := hok.current hrel h2 _ hst (by decide)
        simp [hpend] at hcur
    · exact hr1 m' (by simpa [hm] using hm')

theorem exact_cas_inc (hcb : l.callback = none) (ha : AllowedCasStateRef l m (s.stateRef m) new) :
    After (Exact env cfg) s g logs t l (.casStateRef m (s.stateRef m) new) := by
  simp only [AllowedCasStateRef, hcb] at ha
  obtain ⟨⟨c,hc⟩,hcount,hf,hact,hmask,rfl⟩ := ha
  have hloc := hb.threads t l ht
  have h := hx.threads t l ht
  obtain ⟨ho,-,-⟩ := hb.ref_of_active (hloc.found m hf).2 hact
  have hnot := (hloc.ct c hc).2.2.choose_spec.2.2.2 hcount m
  rw [after_cas_inc hcb hc]
  refine hx.recount hb ht ho (nat4RefGet_succ_lt hmask) (Nat.succ_pos _) ?_ ?_ ?_ rfl ?_
    ⟨h.pending,?_,?_,?_,?_⟩
  · rw [card_insert_of_notMem hnot, hx.count m ho]
  · intro c' hc'
    rcases mem_insert.mp hc' with rfl | hc'
    · exact h.pending c' m hc hf ho
    · exact hx.held c' m hc'
  · intro c' hc' hno
    rcases mem_insert.mp hc' with rfl | hc'
    · exact hc
    · exact absurd hc' hno
  · intro hne
    simp [hne]
  all_goals
    simp [hcb]

section
variable (hr : l.Releasing c m)
include hr

theorem exact_cas_dec (hact : nat4StateGet (s.stateRef m) = nat4StateActive)
    (h2 : 2 ≤ nat4RefGet (s.stateRef m))
    (hnew : new = nat4StateMake nat4StateActive (nat4RefGet (s.stateRef m) - 1)) :
    After (Exact env cfg) s g logs t l (.casStateRef m (s.stateRef m) new) := by
  have h := hx.threads t l ht
  obtain ⟨hmem,ho,hbel,-⟩ := hb.holds_found ht hr
  have hlt := nat4RefGet_lt (s.stateRef m)
  rw [after_cas_dec hr.callback (by omega) hnew, hnew]
  refine hx.recount hb ht ho (by omega) (by omega) ?_ ?_ ?_ rfl (fun _ => rfl)
    ⟨h.pending,h.started,?_,h.pushed,?_⟩
  · rw [card_erase_of_mem hmem, hx.count m ho]
  · intro c' hc'
    exact hx.held c' m (mem_of_mem_erase hc')
  · intro c' hc' hno
    exact absurd (mem_of_mem_erase hc') hno
  · intro _ _ _
    exact hr.released
  · intro c' hc' _ _
    obtain rfl := Option.some.inj (hr.callback.symm.trans hc')
    have hown : ctOwner g c = .mapped m := (hbel.owner g).symm.trans ho
    refine ⟨?_,?_,?_⟩
    · intro m' hm'
      by_cases hm : m' = m
      · subst hm
        simp at hm'
      · exact hm (hb.holder_unique hmem (by simpa [hm] using hm'))
    · intro m' hm'
      have hm'' : ctOwner g c = .closed c m' := hm'
      simp [hown] at hm''
    · intro hm'
      have hm'' : ctOwner g c = .port c := hm'
      simp [hown] at hm''

theorem exact_cas_close : After (Exact env cfg) s g logs t l
    (.casStateRef m (s.stateRef m) (nat4StateMake nat4StateClosed 1)) := by
  have h := hx.threads t l ht
  have hmine := ((hb.threads t l ht).callback c hr.callback).2.2.1
  obtain ⟨hmem,-,-,hstat⟩ := hb.holds_found ht hr
  rw [after_cas_close hr.callback]
  refine hx.move ht rfl ?_ rfl rfl (hx.queued_keep (by simp)) ?_ ?_ hx.ours ?_ (by simp)
    (by simp) hb (by simp)
    ⟨?_,h.started,h.gave,h.pushed,?_⟩
  · intro m' c' hc'
    by_cases hm : m' = m
    · simp [hm] at hc'
    · simpa [hm] using hc'
  · intro m' ho'
    obtain ⟨hm,ho'⟩ := mapped_of_setOwner ho' (by simp)
    simpa [hm] using hx.count m' ho'
  · intro m' ho' hemp
    obtain ⟨hm,ho'⟩ := mapped_of_setOwner ho' (by simp)
    refine made_update hx ht ho' (by simpa [hm] using hemp) ?_
    simp [hmine]
  · rintro c' m' ⟨⟩
    refine ⟨hx.held c m hmem,?_,hr.callback⟩
    rw [hstat]
    decide
  · intro c' m' h1 h2 h3
    exact h.pending c' m' h1 h2 (owner_of_setOwner h3 (by simp)).2
  · rintro c' hc' _ (hgv' | hpu)
    · have hgv'' : l.gave = true := hgv'
      simp [hr.gave] at hgv''
    · have hrel' := (h.pushed c' hc' hpu).2
      simp [hr.released] at hrel'

end

theorem exact_casStateRef {old : Nat} (ha : Allowed env l (.casStateRef m old new)) :
    After (Exact env cfg) s g logs t l (.casStateRef m old new) := by
  by_cases hold : s.stateRef m = old
  · subst hold
    cases hcb : l.callback with
    | none => exact exact_cas_inc hx hb ht hcb ha
    | some c =>
      simp only [Allowed, AllowedCasStateRef, hcb] at ha
      obtain ⟨hr,⟨-,rfl⟩ | ⟨hact,htwo,hnew⟩⟩ := ha
      · exact exact_cas_close hx hb ht hr
      · exact exact_cas_dec hx hb ht hr hact htwo hnew
  · rw [after_cas_fail hold]
    exact hx.silent ht (.rfl s)

theorem Exact.entries (hsr : s'.stateRef = s.stateRef) (hqu : s'.queue = s.queue)
    (hing : s'.ingress = s.ingress) (hatt : ∀ c, Attached s c → Attached s' c ∨ Loose g logs t c)
    (hst : ∀ c, Attached s c → ¬Low (s.status c) → ¬Low (s'.status c)) (hmine : l'.mine = l.mine)
    (hzero : l'.zero = l.zero) (hl : ExactLog s' g l') :
    Exact env cfg s' g (update logs t (some l')) := by
  refine ⟨?_,?_,?_,?_,?_,?_,hx.nobody,?_,forall_update hl ?_⟩
  · rw [hsr]
    exact hx.count
  · intro m ho he
    exact made_update hx ht ho he fun h1 h2 => ⟨hmine.trans h1,hzero.trans h2⟩
  · intro c m hc
    rcases hatt c (hx.held c m hc) with h | h
    · exact h
    · exact absurd hc (h.1.1 m)
  · intro q p c m ho
    obtain ⟨h1,h2⟩ := hx.closing q p c m ho
    rcases hatt c h1 with h | h
    · exact ⟨h,hst c h1 h2⟩
    · exact absurd ho (h.1.closed hb)
  · intro q p c ho
    obtain ⟨h1,h2,h3⟩ := hx.porting q p c ho
    rcases hatt c h1 with h | h
    · exact ⟨h,hst c h1 h2,h3⟩
    · exact absurd ho (h.1.port hb)
  · rw [hqu]
    exact hx.queued
  · rw [hing]
    exact hx.ours
  · intro u x hu hxu
    have h := hx.threads u x hxu
    refine ⟨?_,h.started,h.gave,h.pushed,h.rid⟩
    intro c m h1 h2 h3
    rcases hatt c (h.pending c m h1 h2 h3) with hc | hc
    · exact hc
    · exact absurd h3 (hc.2 u x m hu hxu h1 h2)

theorem exact_setStatus (hlow : ¬Low (s.status c) → ¬Low st)
    (hmine : l'.mine = l.mine) (hzero : l'.zero = l.zero) (hl : ExactLog s g l') :
    Exact env cfg (s.setStatus c st) g (update logs t (some l')) := by
  refine hx.entries hb ht rfl rfl rfl (fun _ => .inl) ?_ hmine hzero
    ⟨hl.pending,hl.started,hl.gave,hl.pushed,hl.rid⟩
  intro c' _ hc'
  rw [setStatus_status]
  split
  · rename_i hc
    subst hc
    exact hlow hc'
  · exact hc'

theorem exact_casStatus {old new : TimerStatus} (ha : Allowed env l (.casStatus c old new)) :
    After (Exact env cfg) s g logs t l (.casStatus c old new) := by
  have h := hx.threads t l ht
  by_cases hold : s.status c = old
  · subst hold
    unfold After
    have he : exec (.casStatus c (s.status c) new) s = (true, s.setStatus c new) := by simp [exec]
    rw [he]
    have hnew : (¬Low (s.status c) → ¬Low new) ∧ new ≠ .pendingRef := by
      rcases ha with ⟨h1,h2,-⟩ | ⟨-,-,-,-,⟨-,rfl,-⟩ | ⟨-,rfl,-⟩ | ⟨-,rfl,-⟩⟩
      · refine ⟨fun hn => absurd (low_of_usable h1) hn,?_⟩
        rintro rfl
        exact absurd h2 (by decide)
      all_goals exact ⟨fun _ => by decide,by decide⟩
    refine exact_setStatus hx hb ht hnew.1 ?_ ?_ ?_
    · simp only [record, Log.onCasStatus]
      split <;> rfl
    · simp only [record, Log.onCasStatus]
      split <;> rfl
    · simp only [record, Log.onCasStatus]
      split
      · rename_i hcb
        -- a callback moves the status of its entry only before it has pushed the port
        have hpu : l.pushed = false := by
          rcases ha with ⟨-,-,h3 | h3⟩ | ⟨-,-,h3,-⟩
          · simp [h3] at hcb
          · exact h3.1.pushed
          · exact h3
        refine ⟨h.pending,?_,?_,?_,h.rid⟩
        · rintro c' hc' ⟨⟩
          exact hnew.2 rfl
        · intro c' hc' hg
          have hrel := h.gave c' hc' hg
          simp [hrel]
        · simp [hpu]
      · exact h
  · rw [after_casStatus_fail hold]
    exact hx.silent ht (.rfl s)

theorem exact_storeStatus (ha : Allowed env l (.storeStatus c st)) :
    After (Exact env cfg) s g logs t l (.storeStatus c st) := by
  obtain ⟨hcb,rfl,hct,-⟩ := ha
  have hst := ((hb.threads t l ht).ct c hct).2.1
  refine exact_setStatus hx hb ht ?_ rfl rfl ⟨?_,?_,?_,?_,?_⟩
  · intro hn
    rw [hst] at hn
    exact absurd (by decide) hn
  · rintro c' m ⟨⟩
  all_goals
    simp [record, hcb]

theorem exact_timerInsert {v : TimerValue} (ha : Allowed env l (.timerInsert k v)) :
    After (Exact env cfg) s g logs t l (.timerInsert k v) := by
  obtain ⟨hcb,hct,-,-⟩ := ha
  cases hk : s.timer k with
  | some c =>
    rw [after_timerInsert_some hk]
    exact hx.silent ht (.rfl s)
  | none =>
    unfold After
    rw [exec_timerInsert v hk]
    set c : Ct := ⟨s.nextId,k,v⟩ with hcdef
    have hrec : record l (.timerInsert k v) (some c) =
        if v.isStatic then l else { l with ct := some c } := by
      cases hst : v.isStatic <;> simp [record, hst]
    rw [hrec]
    have hne : ∀ c', Attached s c' → c'.key ≠ k := by
      intro c' hc' hkk
      rw [Attached, hkk, hk] at hc'
      cases hc'
    refine hx.entries hb ht rfl rfl rfl ?_ ?_ (by split <;> rfl) (by split <;> rfl) ?_
    · intro c' hc'
      exact .inl (by simpa [Attached, hne c' hc'] using hc')
    · intro c' hc' hlow
      have hcc : c' ≠ c := by
        rintro rfl
        exact hne c hc' rfl
      simpa [hcc] using hlow
    · refine ⟨?_,?_,?_,?_,?_⟩
      · intro c' m hc' _ _
        split at hc'
        · simp [hct] at hc'
        · cases hc'
          simp [Attached, hcdef]
      all_goals
        intro c' hc'
        have hc'' : l.callback = some c' := by
          split at hc' <;> exact hc'
        simp [hcb] at hc''

section
variable (hcb : l.callback = some c) (hgo : l.gone = false)
  (hwhy : l.released = true ∨ l.pushed = true ∨ l.status = some .pendingRef)
include hcb hgo hwhy

theorem Exact.settled_callback : s.status c ≠ .pendingRef := by
  have h := hx.threads t l ht
  have hok := ((hb.threads t l ht).callback c hcb).2.2.2
  rcases hwhy with hrel | hpu | hst
  · simp [hok.releasing hrel]
  · obtain ⟨h1,h2⟩ := h.pushed c hcb hpu
    simp [hok.current h2 hgo _ h1 (by decide)]
  · exact absurd hst (h.started c hcb)

theorem Exact.loose_callback (hgv : l.released = true → c.val.isStatic = false → l.gave = true) :
    Loose g logs t c := by
  have h := hx.threads t l ht
  have hrid : Rid g c := by
    rcases hwhy with hrel | hpu | hst
    · cases hdyn : c.val.isStatic with
      | true => exact hb.rid_of_static hdyn
      | false => exact h.rid c hcb hgo (.inl (hgv hrel hdyn))
    · exact h.rid c hcb hgo (.inr hpu)
    · exact absurd hst (h.started c hcb)
  refine ⟨hrid,?_⟩
  intro u x m _ hxu hc _ _
  exact hx.settled_callback hb ht hcb hgo hwhy ((hb.threads u x hxu).ct c hc).2.1

end

theorem Exact.loose_own (hc : l.ct = some c) (hcount : l.counted = false) : Loose g logs t c := by
  obtain ⟨-,hst,m,-,-,-,hno⟩ := (hb.threads t l ht).ct c hc
  have hlow : Low (s.status c) := by rw [hst]; decide
  refine ⟨⟨hno hcount,?_,?_⟩,?_⟩
  · intro m' ho
    exact (hx.closing _ _ c m' ho).2 hlow
  · intro ho
    exact (hx.porting _ _ c ho).2.1 hlow
  · intro u x _ hu hxu hxc
    exact absurd (hb.ctUnique u t x l c hxu ht hxc hc) hu

section
variable (ha : Allowed env l (.timerDelete k)) (hs : Steady s l (.timerDelete k))
include ha hs

/-- No mapping and no port depends on the entry that a handler deletes. -/
theorem Exact.loose_deleted (hstatic : ∀ k', env.nat4StaticMap k' = none)
    (hc : s.timer k = some c) : Loose g logs t c := by
  simp only [Allowed, AllowedTimerDelete] at ha
  simp only [Steady] at hs
  cases hcb : l.callback with
  | some c' =>
    simp only [hcb] at ha hs
    obtain ⟨rfl,-,-,hgo,hwhy⟩ := ha
    rw [hc] at hs
    obtain ⟨hs | ⟨⟨⟩⟩,hgv⟩ := hs
    · cases hs
    · exact hx.loose_callback hb ht hcb hgo hwhy hgv
  | none =>
    simp only [hcb] at ha hs
    obtain ⟨hcount,hwhy⟩ := ha
    cases hct : l.ct with
    | some c' =>
      simp only [hct, hc] at hs
      obtain hs | ⟨⟨⟩⟩ := hs
      · cases hs
      · exact hx.loose_own hb ht hct hcount
    | none =>
      simp only [hct, hc] at hs
      obtain ⟨hs | hs,hin⟩ := hs
      · cases hs
      rcases hwhy hct with hres | ⟨m,tv,hf,hkey,hseen,hgen⟩
      · simp [nat4StaticPortReserved, nat4LookupStaticIngress, hstatic] at hres
      · cases hs.trans hseen
        refine hb.loose_stale (hin m hf) ?_ hgen
        rw [(hb.timerKey k c hc).1]
        exact hkey

theorem Exact.log_timerDelete :
    ExactLog (s.deleteTimer k) g (record l (.timerDelete k) ()) := by
  have h := hx.threads t l ht
  cases hcb : l.callback with
  | none =>
    have hl' : record l (.timerDelete k) () = { l with ct := none } := by simp [record, hcb]
    rw [hl']
    refine ⟨?_,?_,?_,?_,?_⟩
    · rintro c m ⟨⟩
    all_goals
      simp [hcb]
  | some c =>
    have hl' : record l (.timerDelete k) () = { l with gone := true } := by simp [record, hcb]
    rw [hl']
    refine ⟨?_,h.started,h.gave,h.pushed,?_⟩
    · intro c' m hc' hf ho
      have hatt' := h.pending c' m hc' hf ho
      simp only [Allowed, AllowedTimerDelete, hcb] at ha
      simp only [Steady, hcb] at hs
      obtain ⟨rfl,-,-,hgo,hwhy⟩ := ha
      have hne : c'.key ≠ c.key := by
        intro hkk
        rw [Attached, hkk] at hatt'
        rw [hatt'] at hs
        obtain ⟨hs | ⟨⟨⟩⟩,-⟩ := hs
        · cases hs
        · exact hx.settled_callback hb ht hcb hgo hwhy ((hb.threads t l ht).ct c hc').2.1
      exact deleteTimer_of_ne hne hatt'
    · rintro c' _ ⟨⟩

theorem exact_timerDelete (hstatic : ∀ k', env.nat4StaticMap k' = none) :
    After (Exact env cfg) s g logs t l (.timerDelete k) := by
  obtain ⟨E,-⟩ := deleteTimer_shrinks (s := s) k
  have hatt : ∀ c, Attached s c → Attached (s.deleteTimer k) c ∨ Loose g logs t c := by
    intro c hc
    by_cases hk : c.key = k
    · subst hk
      exact .inr (hx.loose_deleted hb ht ha hs hstatic hc)
    · exact .inl (deleteTimer_of_ne hk hc)
  refine hx.entries hb ht E.stateRef E.queue E.ingress hatt ?_ ?_ ?_
    (hx.log_timerDelete hb ht ha hs)
  · intro c _ hc
    rw [show (exec (.timerDelete k) s).2.status = s.status from E.status]
    exact hc
  · simp only [record]
    split <;> rfl
  · simp only [record]
    split <;> rfl

end

end

end Landscape.Nat4
