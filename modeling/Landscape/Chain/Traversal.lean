import Landscape.Chain.Ways

/-! What a packet meets between a chain's root and its exit. -/
namespace Landscape.Chain
open Interleave Function List Option
variable {m : Manager} {s s' : State} {i j : Nat} {d : ChainDir} {e : StageEntry}
  {logs : Nat → Option Log} {t : Nat} {l : CallLog} {c : Slot} {ev : Event} {th : Thread Op Res Log}

structure Through (m : Manager) (s : State) (logs : Nat → Option Log) : Prop where
  inv : Inv false m s logs
  awaited : Awaited s logs
  entries : Entries s logs
  walks : Walks s logs

theorem mem_stagesFor_iff {stages : StageType → Option StageEntry} :
    e ∈ stagesFor stages d ↔ (∃ st, stages st = some e) ∧
      (e.hasProg d && !(e.stage = .pppoe && d = .wanIngress)) = true := by
  rw [stagesFor, mem_filter, mem_filterMap_all]

theorem exists_installed_of_ne_nil (h : stagesFor (s.installed i) d ≠ []) :
    ∃ st, s.installed i st ≠ none := by
  obtain ⟨e,he⟩ := exists_mem_of_ne_nil _ h
  obtain ⟨st,hst⟩ := mem_stagesFor he
  exact ⟨st,by simp [hst]⟩

/- `remove_roots` looks at the chains and the tables only. -/
theorem removeRoots_rest :
    (removeRoots m i s).links = s.links ∧ (removeRoots m i s).installed = s.installed ∧
    (removeRoots m i s).settled = s.settled ∧ (removeRoots m i s).nextId = s.nextId := by
  have hdrop : ∀ (s : State) d, (removeChainLocked i d s).links = s.links ∧
      (removeChainLocked i d s).installed = s.installed ∧
      (removeChainLocked i d s).settled = s.settled ∧
      (removeChainLocked i d s).nextId = s.nextId := by
    intro s d
    unfold removeChainLocked
    split
    · exact ⟨rfl,rfl,rfl,rfl⟩
    · split <;> exact ⟨rfl,rfl,rfl,rfl⟩
  unfold removeRoots
  split
  · split <;> exact ⟨rfl,rfl,rfl,rfl⟩
  · obtain ⟨h1,h2,h3,h4⟩ := hdrop s .wanEgress
    obtain ⟨k1,k2,k3,k4⟩ := hdrop (removeChainLocked i .wanEgress s) .wanIngress
    exact ⟨k1.trans h1,k2.trans h2,k3.trans h3,k4.trans h4⟩

/-- An interface with stages keeps its roots, if the TC manager is called without stages only. -/
theorem removeRoots_root_kept (hs : Sound m s) (htc : m = .tc → ∀ st, s.installed i st = none)
    {r : ChainRoot} (hj : stagesFor (s.installed j) d ≠ []) (hr : (s.chain j d).root = some r) :
    ((removeRoots m i s).chain j d).root = some r := by
  by_cases hno : ∀ st, s.installed i st = none
  · have hji : j ≠ i := by
      rintro rfl
      obtain ⟨st,hst⟩ := exists_installed_of_ne_nil hj
      exact hst (hno st)
    rw [removeRoots_eq hs hno, chain_eq (dropRoots_chains_other hji), hr]
  · cases m with
    | tc => exact absurd (htc rfl) hno
    | xdp =>
      obtain ⟨st,hst⟩ := not_forall.mp hno
      rw [removeRoots_xdp_self hs hst, hr]

theorem owes_nothing (h : l.owes = fun _ => false) : update l.owes d false = fun _ => false := by
  rw [h]
  exact update_eq_self d _

section Calls
variable (h : Through m s logs) (ht : logs t = some (.call l))
include h ht

/- The call pays what it owes and takes on nothing new. -/
theorem Through.entries_kept {l' : CallLog} (hent : l'.entry = l.entry)
    (hif : l'.ifindex = l.ifindex) (hgrow : s.nextId ≤ s'.nextId) (hset : s'.settled = s.settled)
    (hinst : s'.installed = s.installed)
    (howes : l.owes = (fun _ => false) → l'.owes = fun _ => false) :
    Entries s' (update logs t (some (.call l'))) := by
  refine h.entries.act ht hent hif hgrow fun j st x hx => ?_
  rw [hset] at hx
  obtain ⟨h1,h2⟩ := h.entries.settled j st x hx
  exact ⟨hinst ▸ h1,.inl hx,fun hl => howes (h2 t l ht (hent ▸ hl))⟩

section
variable (hif : l.ifindex = i) (hlock : s.locked = false) (hfree : l.rebuilding = none)
include hif hlock hfree

theorem Through.ensureRoots (route : Bool) : Through m (exec m (.ensureRoots i route) s).2
      (update logs t (some (.call (l.record (.ensureRoots i route) ())))) := by
  have he := ensureRootsLocked_ensured s i
  have hsame : SameChains (s.ensureRootsLocked i) (exec m (.ensureRoots i route) s).2 := by
    cases route <;> exact ⟨rfl,rfl,rfl,rfl,rfl,le_refl _⟩
  have hset : (exec m (.ensureRoots i route) s).2.settled = s.settled := by
    cases route <;> exact he.settled
  have hinst : (exec m (.ensureRoots i route) s).2.installed = s.installed :=
    hsame.installed.trans he.installed
  have hlinks := hsame.links.trans he.links
  refine ⟨h.inv.ensureRoots ht hlock hif hfree route,?_,?_,?_⟩
  · refine h.awaited.of_kept ht (fun j d x hx => .inl (hinst ▸ hx)) ?_ hlinks
      fun _ _ _ _ ha => .inr ha
    intro j d r _ hr
    rw [hsame.chain]
    exact he.root_kept hr
  · exact h.entries_kept ht rfl rfl (le_trans he.grows hsame.grows) hset hinst id
  · exact h.walks.call_same ht hlinks rfl fun d ws hr => ⟨ws,hr⟩

theorem Through.insertStage {st : StageType}
    (he : e.ifindex = i ∧ e.stage = st ∧ programsFit m e = true) (hens : m = .tc → l.ensured = true)
    (hent : l.entry = some e) : Through m (exec m (.insertStage i st e) s).2
      (update logs t (some (.call (l.record (.insertStage i st e) ())))) := by
  have hset : StageSet s (exec m (.insertStage i st e) s).2 i st (some e) :=
    insertStage_set h.inv.sound e
  refine ⟨h.inv.insertStage ht hlock hif hfree he hens,?_,?_,?_⟩
  · refine h.awaited.of_kept ht ?_ (fun j d r _ hr => (hset.root j d).trans hr) hset.links ?_
    · intro j d x hx
      obtain ⟨⟨st',hst'⟩,hserves⟩ := mem_stagesFor_iff.mp hx
      rw [hset.installed, Table.update_update_apply] at hst'
      split at hst'
      · rename_i hj
        obtain rfl := some.inj hst'
        exact .inr ⟨hif.trans hj.1.symm,.inl ⟨hent,rfl⟩⟩
      · exact .inl (mem_stagesFor_iff.mpr ⟨⟨st',hst'⟩,hserves⟩)
    · rintro j d x - ⟨hj,⟨hx,-⟩ | ⟨ws,hr⟩⟩
      · exact .inr ⟨hj,.inl ⟨hx,rfl⟩⟩
      · exact .inr ⟨hj,.inr ⟨ws,hr⟩⟩
  · refine h.entries.act ht rfl rfl (le_refl _) fun j st' x hx => ?_
    obtain ⟨hold,hne⟩ := Table.of_update_update_none hx
    obtain ⟨h1,-⟩ := h.entries.settled j st' x hold
    refine ⟨?_,.inl hold,fun hx => ?_⟩
    · rw [hset.installed, Table.update_update_apply, if_neg hne]
      exact h1
    cases hent.symm.trans hx
    obtain ⟨k1,k2,-⟩ := h.inv.sound.typed j st' e h1
    exact absurd ⟨k1.symm.trans he.1,k2.symm.trans he.2.1⟩ hne
  · exact h.walks.call_same ht rfl rfl fun d ws hr => ⟨ws,hr⟩

theorem Through.removeStage (hent : l.entry = none) (st : StageType) :
    Through m (exec m (.removeStage i st) s).2
      (update logs t (some (.call (l.record (.removeStage i st)
        (exec m (.removeStage i st) s).1)))) := by
  have hset := dropStage_set (i := i) h.inv.sound st
  have hinv := h.inv.removeStage ht hlock hif hfree st
  have hs' : (exec m (.removeStage i st) s).2 = dropStage i st s := removeStage_snd
  rw [hs'] at hinv ⊢
  -- Whatever the answer, the record keeps its entry and takes on debts only.
  have hrec : ∀ r, (l.record (.removeStage i st) r).entry = l.entry ∧
      (l.record (.removeStage i st) r).ifindex = l.ifindex ∧
      (l.record (.removeStage i st) r).rebuilding = l.rebuilding ∧
      ∀ d, l.owes d = true → (l.record (.removeStage i st) r).owes d = true := by
    intro r
    rcases r with _ | _ | _ <;> exact ⟨rfl,rfl,rfl,fun d h => by first | exact h | rfl⟩
  obtain ⟨r1,r2,r3,r4⟩ := hrec (exec m (.removeStage i st) s).1
  refine ⟨hinv,?_,?_,h.walks.call_same ht hset.links r2 fun d ws hr => ⟨ws,r3 ▸ hr⟩⟩
  · refine h.awaited.of_kept ht ?_ (fun j d r _ hr => (hset.root j d).trans hr) hset.links ?_
    · intro j d x hx
      obtain ⟨⟨st',hst'⟩,hserves⟩ := mem_stagesFor_iff.mp hx
      exact .inl (mem_stagesFor_iff.mpr ⟨⟨st',(Table.of_update_update_none hst').1⟩,hserves⟩)
    · rintro j d x - ⟨hj,⟨hx,ho⟩ | ⟨ws,hr⟩⟩
      · exact .inr ⟨r2.trans hj,.inl ⟨r1.trans hx,r4 d ho⟩⟩
      · exact .inr ⟨r2.trans hj,.inr ⟨ws,r3.trans hr⟩⟩
  · refine h.entries.act ht r1 r2 (le_refl _) fun j st' x hx => ?_
    obtain ⟨hold,hne⟩ := Table.of_update_update_none hx
    obtain ⟨h1,-⟩ := h.entries.settled j st' x hold
    refine ⟨?_,.inl hold,fun hx => ?_⟩
    · rw [hset.installed, Table.update_update_apply, if_neg hne]
      exact h1
    · rw [hent] at hx
      cases hx

theorem Through.removeRoots {route : Bool} (hroute : route = true → m = .xdp)
    (hspare : route = false → Spare false s logs i m) :
    Through m (exec m (.removeRoots i route) s).2
      (update logs t (some (.call (l.record (.removeRoots i route) ())))) := by
  have hinv := h.inv.removeRoots ht hlock hif hfree hroute hspare
  obtain ⟨k1,k2,k3,k4⟩ := removeRoots_rest
  have hsame : SameChains (Chain.removeRoots m i s) (exec m (.removeRoots i route) s).2 :=
    removeRoots_same
  have hset : (exec m (.removeRoots i route) s).2.settled = s.settled := by
    cases route <;> exact k3
  have hinst : (exec m (.removeRoots i route) s).2.installed = s.installed :=
    hsame.installed.trans k2
  have htc : m = .tc → ∀ st, s.installed i st = none := by
    rintro rfl
    cases route with
    | true => cases hroute rfl
    | false => exact (hspare rfl).2.1
  refine ⟨hinv,?_,?_,h.walks.call_same ht (hsame.links.trans k1) rfl fun d ws hr => ⟨ws,hr⟩⟩
  · refine h.awaited.of_kept ht (fun j d x hx => .inl (hinst ▸ hx)) ?_ (hsame.links.trans k1)
      fun _ _ _ _ ha => .inr ha
    intro j d r hj hr
    rw [hinst] at hj
    rw [hsame.chain]
    exact removeRoots_root_kept h.inv.sound htc hj hr
  · exact h.entries_kept ht rfl rfl (le_trans (le_of_eq k4.symm) hsame.grows) hset hinst id

end

theorem Through.rebuild (hif : l.ifindex = i) (hlock : s.locked = false)
    (hfree : l.rebuilding = none) (howes : l.owes d = true)
    (hclear : ∀ u p, logs u = some (.packet p) → p.at? ≠ none → (i, d) ≠ (p.ifindex, p.dir)) :
    Through m (exec m (.rebuild i d) s).2
      (update logs t (some (.call (l.record (.rebuild i d) (exec m (.rebuild i d) s).1)))) := by
  have hinv := h.inv.rebuild ht hlock hif hfree howes
  rcases rebuildStart_cases with ⟨hm,hroot,heq⟩ | ⟨r,hr,heq⟩
  · rw [show exec m (.rebuild i d) s = (none, s) from heq] at hinv ⊢
    refine ⟨hinv,?_,?_,?_⟩
    · refine h.awaited.of_kept ht (fun _ _ _ => .inl) (fun _ _ _ _ hr => hr) rfl ?_
      rintro j d' x hx ⟨hj,⟨hl,ho⟩ | ⟨ws,hr⟩⟩
      · have hd : d' ≠ d := by
          rintro rfl
          have hij : i = j := hif.symm.trans hj
          subst hij
          have hne : stagesFor (s.installed i) d' ≠ [] := ne_nil_of_mem hx
          exact h.inv.rooted i (.inr ⟨hm,.inl (exists_installed_of_ne_nil hne)⟩) d' hroot
        exact .inr ⟨hj,.inl ⟨hl,(update_of_ne hd _ _).trans ho⟩⟩
      · rw [hfree] at hr
        cases hr
    · exact h.entries_kept ht rfl rfl (le_refl _) rfl rfl owes_nothing
    · exact h.walks.call_same ht rfl rfl fun d ws hr => ⟨ws,hr⟩
  · rw [show exec m (.rebuild i d) s = _ from heq] at hinv ⊢
    have he := rebuildRoots_ensured m i d s
    refine ⟨hinv,?_,?_,?_⟩
    · refine h.awaited.of_kept ht (fun j d' x hx => .inl (he.installed ▸ hx)) ?_ he.links ?_
      · intro j d' r' _ hr'
        exact he.root_kept hr'
      · rintro j d' x - ⟨hj,hl | ⟨ws,hr⟩⟩
        · exact .inr ⟨hj,.inl hl⟩
        · rw [hfree] at hr
          cases hr
    · exact h.entries_kept ht rfl rfl he.grows he.settled he.installed id
    · refine h.walks.call nofun (fun _ _ _ _ z _ => by rw [← he.links]) ?_
      rintro k d' ws ⟨⟩ hk u p hp hat
      cases hk
      have hne : (l.ifindex, d) ≠ (p.ifindex, p.dir) := by
        rw [hif]
        exact hclear u p hp hat
      exact hne

theorem Through.setLink {v : Option StageEntry} {ws : LinkWrites}
    (hr : l.rebuilding = some (d, (c, v) :: ws)) : Through m (exec m (.setLink c v) s).2
      (update logs t (some (.call (l.record (.setLink c v) ())))) := by
  have hw := h.inv.held.writes t l d _ ht hr
  have hl' : (l.record (.setLink c v) ()).rebuilding = some (d, ws) := by simp [CallLog.record, hr]
  have howner : c.owner = (l.ifindex, d) := hw.owner _ mem_cons_self
  have hother : ∀ j d', (l.ifindex, d) ≠ (j, d') → ∀ x : Slot, x.owner = (j, d') →
      (exec m (.setLink c v) s).2.links x = s.links x := by
    intro j d' hne x hx
    refine update_of_ne ?_ _ _
    rintro rfl
    exact hne (howner.symm.trans hx)
  refine ⟨h.inv.setLink ht hr,?_,?_,?_⟩
  · intro j d' x hx
    by_cases hj : (l.ifindex, d) = (j, d')
    · cases hj
      exact .inr ⟨t,_,update_self _ _ _,rfl,.inr ⟨ws,hl'⟩⟩
    · refine (h.awaited j d' x hx).act ht
        (fun hin => .inl (hin.of_kept (fun _ h => h) (hother j d' hj))) ?_
      rintro ⟨hj',hl | ⟨ws',hr'⟩⟩
      · exact .inr ⟨hj',.inl hl⟩
      · cases hr.symm.trans hr'
        exact absurd (by rw [hj']) hj
  · exact h.entries_kept ht rfl rfl (le_refl _) rfl rfl id
  · have hapart := fun u p hp hat => h.walks.apart u p t l d _ hp hat ht hr
    refine h.walks.call (by simp) (fun u p hp hat => hother _ _ (hapart u p hp hat)) ?_
    rintro k d' ws' ⟨⟩ hk u p hp hat
    rw [hl'] at hk
    cases hk
    exact hapart u p hp hat

theorem Through.unlock (hr : l.rebuilding = some (d, [])) :
    Through m (exec m .unlock s).2 (update logs t (some (.call (l.record .unlock ())))) := by
  have hw := h.inv.held.writes t l d _ ht hr
  have hinv := h.inv.unlock ht hr
  have hl' : l.record .unlock () =
      { l with owes := update l.owes d false, rebuilding := none } := by
    simp [CallLog.record, hr]
  have hsame : SameChains s (exec m .unlock s).2 := ⟨rfl,rfl,rfl,rfl,rfl,le_refl _⟩
  rw [hl'] at hinv ⊢
  refine ⟨hinv,?_,?_,?_⟩
  · refine h.awaited.of_kept ht (fun _ _ _ => .inl) (fun _ _ _ _ hr => hr) rfl ?_
    rintro j d' x hx ⟨hj,hl⟩
    subst hj
    by_cases hd : d' = d
    · subst hd
      exact .inl ((hw.right.of_same h.inv.sound hsame).inChain hinv.sound hx)
    · rcases hl with ⟨hl,ho⟩ | ⟨ws,hr'⟩
      · exact .inr ⟨rfl,.inl ⟨hl,(update_of_ne hd _ _).trans ho⟩⟩
      · cases hr.symm.trans hr'
        exact absurd rfl hd
  · exact h.entries_kept ht rfl rfl hsame.grows rfl hsame.installed owes_nothing
  · refine h.walks.call_same ht rfl rfl fun d ws hr => ?_
    cases hr

theorem Through.settle (hfree : l.rebuilding = none) (hent : l.entry = some e)
    (how : l.owes = fun _ => false) (i : Nat) (st : StageType) :
    Through m (exec m (.settle i st e) s).2 (update logs t (some (.call l))) := by
  have hinv := h.inv.settle ht hfree i st e
  simp only [exec] at hinv ⊢
  split
  · rename_i hst
    rw [if_pos hst] at hinv
    refine ⟨hinv,?_,?_,h.walks.call_same ht rfl rfl fun d ws hr => ⟨ws,hr⟩⟩
    · exact h.awaited.of_kept ht (fun _ _ _ => .inl) (fun _ _ _ _ hr => hr) rfl fun _ _ _ _ => .inr
    · refine h.entries.act ht rfl rfl (le_refl _) fun j st' x hx => ?_
      change update s.settled i (update (s.settled i) st (some e)) j st' = some x at hx
      rw [Table.update_update_apply] at hx
      split at hx
      · rename_i hj
        obtain ⟨rfl,rfl⟩ := hj
        obtain rfl := some.inj hx
        exact ⟨hst,.inr hent,fun _ => how⟩
      · exact ⟨(h.entries.settled j st' x hx).1,.inl hx,fun _ => how⟩
  · rename_i hst
    have hsame : update logs t (some (.call l)) = logs := by rw [← ht, update_eq_self]
    rw [hsame]
    exact h

end Calls

section Packets
variable {p : PacketLog} (h : Through m s logs) (ht : logs t = some (.packet p))

theorem Entries.of_calls {logs' : Nat → Option Log} (h : Entries s logs)
    (hcalls : ∀ u k, logs' u = some (.call k) → logs u = some (.call k)) : Entries s logs' where
  below u k e hk := h.below u k e (hcalls u k hk)
  unique u v k k' e hk hk' := h.unique u v k k' e (hcalls u k hk) (hcalls v k' hk')
  settled i st e he :=
    ⟨(h.settled i st e he).1,fun u k hk => (h.settled i st e he).2 u k (hcalls u k hk)⟩

include h ht

theorem Through.of_packet {p' : PacketLog} (hway : OnWay s.links p')
    (hapart : p'.at? ≠ none → ∀ u l d ws, logs u = some (.call l) → l.rebuilding = some (d, ws) →
      (l.ifindex, d) ≠ (p'.ifindex, p'.dir)) : Through m s (update logs t (some (.packet p'))) := by
  refine ⟨h.inv.packet ht p',?_,h.entries.of_calls ?_,h.walks.packet hway hapart⟩
  · intro i d e he
    exact (h.awaited i d e he).act ht .inl fun ha => ha.elim
  · intro u k hk
    rcases log_update hk with ⟨-,hl⟩ | ⟨-,hk⟩
    · cases hl
    · exact hk

/-- Where nobody rebuilds the chain, all settled stages are ahead of a packet that comes in. -/
theorem Through.enter (hp : p = { ifindex := i, dir := d })
    (hclear : ∀ u l d' ws, logs u = some (.call l) → l.rebuilding = some (d', ws) →
      (l.ifindex, d') ≠ (i, d)) :
    Through m s (update logs t (some
      (.packet (p.record (.enter i d) (exec m (.enter i d) s).1)))) := by
  subst hp
  refine h.of_packet ht ⟨fun hl => absurd rfl hl,nofun,fun c hc _ e he => ?_⟩
    fun _ => hclear
  obtain ⟨r,hr,rfl⟩ := map_eq_some_iff.mp hc
  have hroot : (s.chain i d).root = some r := by
    rw [← h.inv.sound.table]
    simp only [State.rootFor] at hr
    split at hr
    · cases hr
    · exact hr
  obtain ⟨⟨st,hst⟩,hserves⟩ := mem_stagesFor_iff.mp he
  obtain ⟨hinst,hdone⟩ := h.entries.settled i st e hst
  refine .inr ?_
  rcases h.awaited i d e (mem_stagesFor_iff.mpr ⟨⟨st,hinst⟩,hserves⟩) with
    ⟨r',hr',ha⟩ | ⟨u,x,hx,ha⟩
  · cases hroot.symm.trans hr'
    exact ha
  · cases x with
    | packet q => exact ha.elim
    | call k =>
      obtain ⟨hk,⟨hke,hko⟩ | ⟨ws,hr⟩⟩ := ha
      · rw [hdone u k hx hke] at hko
        cases hko
      · exact absurd (by rw [hk]) (hclear u k d ws hx hr)

theorem Through.tailCall (hc : p.at? = some c) (hm : p.missed = false) :
    Through m s (update logs t (some
      (.packet (p.record (.tailCall c) (exec m (.tailCall c) s).1)))) := by
  have hway := h.walks.onWay t p ht
  have hapart : ∀ u l d ws, logs u = some (.call l) → l.rebuilding = some (d, ws) →
      (l.ifindex, d) ≠ (p.ifindex, p.dir) :=
    fun u l d ws hl hr => h.walks.apart t p u l d ws ht (by simp [hc]) hl hr
  show Through m s (update logs t (some (.packet (p.record (.tailCall c) (s.links c)))))
  cases hx : s.links c with
  | none =>
    refine h.of_packet ht ⟨fun _ => rfl,fun _ e he => ?_,nofun⟩ fun _ => hapart
    rcases hway.ahead c hc hm e he with hv | ha
    · exact hv
    · exact absurd hx ha.slot_ne_none
  | some x =>
    refine h.of_packet ht ⟨?_,?_,?_⟩ fun _ => hapart
    · intro hl
      exact absurd (hway.left hl) (by simp [hm])
    · intro hm'
      exact absurd (hm.symm.trans hm') (by decide)
    · intro c' hc' _ e he
      obtain rfl : Slot.next x p.dir = c' := by simpa [PacketLog.record] using hc'
      rcases hway.ahead c hc hm e he with hv | ha
      · exact .inl (mem_append_left _ hv)
      · rcases ha.next hx with rfl | ha
        · exact .inl (mem_append_right _ mem_cons_self)
        · exact .inr ha

theorem Through.leave (hm : p.missed = true) (i : Nat) :
    Through m s (update logs t (some (.packet (p.record (.leave i) (exec m (.leave i) s).1)))) := by
  have hway := h.walks.onWay t p ht
  refine h.of_packet ht ⟨fun _ => hm,hway.missed,fun c hc => ?_⟩ fun hat => ?_
  · cases hc
  · exact absurd rfl hat

end Packets

theorem Through.finish {x : Log} (h : Through m s logs) (ht : logs t = some x) (hx : Returned x) :
    Through m s (update logs t none) := by
  have hsub : ∀ u y, update logs t none u = some y → logs u = some y :=
    fun _ _ hy => (Table.of_update_none hy).2
  refine ⟨h.inv.finish ht hx,?_,h.entries.of_calls fun u k => hsub u _,⟨?_,?_⟩⟩
  · intro i d e he
    refine (h.awaited i d e he).finish ht fun ha => ?_
    cases x with
    | packet p => exact ha
    | call l =>
      obtain ⟨hfree,-,how⟩ := hx
      rcases ha.2 with ⟨-,ho⟩ | ⟨ws,hr⟩
      · simp [how] at ho
      · simp [hfree] at hr
  · intro u p hp
    exact h.walks.onWay u p (hsub u _ hp)
  · intro u p v l d ws hp hat hl
    exact h.walks.apart u p v l d ws (hsub u _ hp) hat (hsub v _ hl)

def Newcomer (s s' : State) : Log → Prop
  | .call k => k.rebuilding = none ∧ k.owes = (fun _ => false) ∧ ∀ e, k.entry = some e →
      s.nextId ≤ e.id ∧ e.id < s'.nextId ∧ e.ifindex = k.ifindex
  | .packet p => p = { ifindex := p.ifindex, dir := p.dir }

theorem launch_newcomer (h : launch m ev s = some (s', th)) :
    Newcomer s s' th.log ∧ ∀ i st e, s'.settled i st = some e → s.settled i st = some e := by
  cases ev with
  | activate i =>
    cases h
    exact ⟨⟨rfl,rfl,nofun⟩,fun _ _ _ he => he⟩
  | shutdown i => cases m <;> cases h <;> exact ⟨⟨rfl,rfl,nofun⟩,fun _ _ _ he => he⟩
  | install i st ingress egress ensures =>
    simp only [launch] at h
    split at h
    · cases h
      refine ⟨⟨rfl,rfl,?_⟩,fun _ _ _ he => he⟩
      rintro e ⟨⟩
      exact ⟨Nat.le_refl _,Nat.lt_succ_self _,rfl⟩
    · cases h
  | remove i st =>
    cases h
    refine ⟨⟨rfl,rfl,nofun⟩,fun j st' e he => ?_⟩
    exact (Table.of_update_update_none he).1
  | packet i d ends =>
    cases h
    exact ⟨rfl,fun _ _ _ he => he⟩

theorem Through.start (h : Through m s logs)
    (ht : logs t = none) (hl : launch m ev s = some (s', th)) :
    Through m s' (update logs t (some th.log)) := by
  obtain ⟨hsame,hlock,hact,hx,-⟩ := launch_does hl
  obtain ⟨hnew,hset⟩ := launch_newcomer hl
  refine ⟨h.inv.start ht hsame hlock hact hx,?_,⟨?_,?_,?_⟩,⟨?_,?_⟩⟩
  · intro i d e he
    rw [hsame.installed] at he
    refine (h.awaited i d e he).start ht _
      fun hin => .inl (hin.of_kept ?_ fun x _ => by rw [hsame.links])
    intro r hr
    rw [hsame.chain, hr]
  · intro u k e hk he
    rcases log_update hk with ⟨-,hlog⟩ | ⟨-,hk⟩
    · rw [hlog] at hnew
      exact (hnew.2.2 e he).2
    · obtain ⟨h1,h2⟩ := h.entries.below u k e hk he
      exact ⟨lt_of_lt_of_le h1 hsame.grows,h2⟩
  · intro u v k k' e hk hk' he he'
    rcases log_update hk with ⟨hu,hlog⟩ | ⟨-,hk⟩
    · rcases log_update hk' with ⟨hv,-⟩ | ⟨-,hk'⟩
      · exact hu.trans hv.symm
      · rw [hlog] at hnew
        have h1 := (hnew.2.2 e he).1
        have h2 := (h.entries.below v k' e hk' he').1
        omega
    · rcases log_update hk' with ⟨-,hlog⟩ | ⟨-,hk'⟩
      · rw [hlog] at hnew
        have h1 := (hnew.2.2 e he').1
        have h2 := (h.entries.below u k e hk he).1
        omega
      · exact h.entries.unique u v k k' e hk hk' he he'
  · intro i st e he
    obtain ⟨h1,h2⟩ := h.entries.settled i st e (hset i st e he)
    refine ⟨hsame.installed ▸ h1,fun u k hk hke => ?_⟩
    rcases log_update hk with ⟨-,hlog⟩ | ⟨-,hk⟩
    · rw [hlog] at hnew
      exact hnew.2.1
    · exact h2 u k hk hke
  · intro u p hp
    rcases log_update hp with ⟨-,hlog⟩ | ⟨-,hp⟩
    · rw [hlog] at hnew
      rw [hnew]
      exact ⟨fun hl => absurd rfl hl,nofun,nofun⟩
    · rw [hsame.links]
      exact h.walks.onWay u p hp
  · intro u p v k d ws hp hat hk hr
    rcases log_update hp with ⟨-,hlog⟩ | ⟨-,hp⟩
    · rw [hlog] at hnew
      rw [hnew] at hat
      exact absurd rfl hat
    · rcases log_update hk with ⟨-,hlog⟩ | ⟨-,hk⟩
      · rw [hlog] at hnew
        rw [hnew.1] at hr
        cases hr
      · exact h.walks.apart u p v k d ws hp hat hk hr

/-- The mutex is kept, no removal on TC takes the roots of stages, and while a chain is rebuilt no
packet is in it or comes in. -/
def undisturbed (m : Manager) : Schedule Op State Log Event :=
  ⟨fun _ _ => True,fun s logs t o =>
    (sparing false m).acts s logs t o ∧
    (∀ i d, o = .rebuild i d → ∀ u p, logs u = some (.packet p) → p.at? ≠ none →
      (i, d) ≠ (p.ifindex, p.dir)) ∧
    ∀ i d,o = .enter i d → ∀ u l d' ws,logs u = some (.call l) → l.rebuilding = some (d', ws) →
      (l.ifindex, d') ≠ (i, d)⟩

theorem traversal_outline :
    Outline (machine m) (contract m) (undisturbed m) Returned (Through m) where
  start s logs t e s' th h ht _ hl := ⟨h.start ht hl,(launch_does hl).2.2.2.2⟩
  act s logs t x o h ht hr ha := by
    refine ⟨trivial,?_⟩
    obtain ⟨⟨hlock,hspare⟩,hclear,henter⟩ := hr
    cases x with
    | packet p =>
      cases o with
      | enter i d => exact h.enter ht ha (henter i d rfl)
      | tailCall c => exact h.tailCall ht ha.1 ha.2
      | leave i => exact h.leave ht ha.2 i
      | _ => exact ha.elim
    | call l =>
      cases o with
      | ensureRoots i route => exact h.ensureRoots ht ha.1 (hlock rfl) ha.2 route
      | insertStage i st e =>
        obtain ⟨hif,hfree,he,hens,hent⟩ := ha
        exact h.insertStage ht hif (hlock rfl) hfree he hens hent
      | removeStage i st => exact h.removeStage ht ha.1 (hlock rfl) ha.2.1 ha.2.2 st
      | removeRoots i route =>
        refine h.removeRoots ht ha.1 (hlock rfl) ha.2.1 ha.2.2 ?_
        rintro rfl
        exact hspare i rfl
      | rebuild i d => exact h.rebuild ht ha.1 (hlock rfl) ha.2.1 ha.2.2 (hclear i d rfl)
      | setLink c v =>
        obtain ⟨d,ws,hr⟩ := ha
        exact h.setLink ht hr
      | unlock =>
        obtain ⟨d,hr⟩ := ha
        exact h.unlock ht hr
      | settle i st e => exact h.settle ht ha.1 ha.2.1 ha.2.2.1 i st
      | _ => exact ha.elim
  finish s logs t x h ht hx := h.finish ht hx

theorem through_init : Through m {} fun _ => none where
  inv := inv_init
  awaited i d e he := by simp [stagesFor] at he
  entries := by refine ⟨?_,?_,?_⟩ <;> intros <;> simp_all
  walks := by refine ⟨?_,?_⟩ <;> intros <;> simp_all

/-- A packet that has left by the exit was processed by every stage of its direction that was
installed when it came in and, by the same installation, when it left. -/
def Covered (p : PacketLog) : Prop :=
  ∀ stages, p.left = some stages → ∀ e ∈ stagesFor p.entered p.dir, e ∈ stagesFor stages p.dir →
    e ∈ p.visited

/-- As long as rebuilds and packets of a chain keep out of each other's way, no packet gets around
a stage. -/
theorem covered_of_undisturbed (m : Manager) (c : Config Op Res State Log)
    (h : Reach (machine m) (undisturbed m) ⟨{},fun _ => none⟩ c) :
    ∀ t p, c.logs t = some (.packet p) → Covered p := by
  intro t p hp stages hl e he _
  have hway := (traversal_outline.reach through_init h).walks.onWay t p hp
  exact hway.missed (hway.left (by simp [hl])) e he

def Log.packet? : Log → Option PacketLog
  | .packet p => some p
  | .call _ => none

def Log.call? : Log → Option CallLog
  | .call l => some l
  | .packet _ => none

theorem bind_packet? {x : Option Log} {p : PacketLog} : x.bind Log.packet? = some p ↔
    x = some (.packet p) := by
  cases x with
  | none => simp
  | some x => cases x <;> simp [Log.packet?]

def undisturbedCheck (s : State) (logs : Nat → Option Log) (_ : Nat) (o : Op) : Bool :=
  (!o.locks || !s.locked) && match o with
    | .removeRoots _ false => false
    | .rebuild _ _ => (range 2).all fun u => ((logs u).bind Log.packet?).all (·.at?.isNone)
    | .enter _ _ => (range 2).all fun u => ((logs u).bind Log.call?).all (·.rebuilding.isNone)
    | _ => true

theorem undisturbed_of_check (s : State) (logs : Nat → Option Log) (t : Nat) (o : Op)
    (hbelow : ∀ u, 2 ≤ u → logs u = none) (hok : undisturbedCheck s logs t o = true) :
    (undisturbed .tc).acts s logs t o := by
  simp only [undisturbedCheck, Bool.and_eq_true, Bool.or_eq_true, Bool.not_eq_true'] at hok
  obtain ⟨hlock,hok⟩ := hok
  have hlt : ∀ u x, logs u = some x → u ∈ range 2 := by
    intro u x hx
    by_contra hu
    rw [mem_range] at hu
    rw [hbelow u (by omega)] at hx
    cases hx
  refine ⟨⟨fun ho => hlock.resolve_left (by simp [ho]),?_⟩,?_,?_⟩
  · rintro i rfl
    cases hok
  · rintro i d rfl u p hp hat
    have := all_eq_true.mp hok u (hlt u _ hp)
    rw [hp] at this
    exact absurd (isNone_iff_eq_none.mp this) hat
  · rintro i d rfl u l d' ws hl hr
    have := all_eq_true.mp hok u (hlt u _ hl)
    rw [hl] at this
    simp [Log.call?, hr] at this

/- A firewall is put in, a packet comes through it, and a NAT stage follows. -/
theorem covered_sample : ∃ c, Reach (machine .tc) (undisturbed .tc) ⟨{},fun _ => none⟩ c ∧
    ∃ p, c.logs 1 = some (.packet p) ∧ (p.left.isSome && p.visited.length == 1) = true ∧
      Covered p := by
  obtain ⟨c,hc,-,hpost⟩ := reach_of_check (machine .tc)
    ([.start 0 (.install 1 .firewall true true true)] ++ replicate 13 (.act 0) ++ [.finish 0,
      .start 0 (.install 1 .nat true true true), .start 1 (.packet 1 .wanIngress fun _ => false),
      .act 0, .act 1, .act 0, .act 1, .act 1, .act 1] ++ replicate 7 (.act 0))
    2 {} undisturbed_of_check (fun _ _ => trivial)
    (fun c => ((c.logs 1).bind Log.packet?).any
      (fun p => p.left.isSome && p.visited.length == 1) = true)
    (by decide) (by decide +kernel)
  obtain ⟨p,hp,hpost⟩ := (any_eq_true _ _).mp hpost
  have hp := bind_packet?.mp hp
  exact ⟨c,hc,p,hp,hpost,covered_of_undisturbed .tc c hc 1 p hp⟩

def firstDir : Manager → ChainDir
  | .tc => .wanIngress
  | .xdp => .wanEgress

def AlwaysCovered (m : Manager) : Prop :=
  ∀ c, Reach (machine m) mutex ⟨{},fun _ => none⟩ c → ∀ t p, c.logs t = some (.packet p) → Covered p

theorem not_alwaysCovered : ¬AlwaysCovered m := by
  intro hall
  obtain ⟨c,hc,-,hpost⟩ := reach_of_check (machine m)
    ([.start 0 (.install 1 .firewall true true true)] ++ List.replicate 13 (.act 0) ++ [.finish 0,
      .start 0 (.install 1 .nat true true true),
      .start 1 (.packet 1 (firstDir m) fun _ => false)] ++
      List.replicate 6 (.act 0) ++ List.replicate 3 (.act 1))
    2 {} (fun _ _ _ _ _ => mutex_of_check) (fun _ _ => trivial)
    (fun c => ((c.logs 1).bind Log.packet?).any
      (fun p => p.visited == [] && p.left.any fun stages =>
        stagesFor p.entered p.dir == stagesFor stages p.dir &&
          stagesFor p.entered p.dir != []) = true)
    (by cases m <;> decide) (by cases m <;> decide +kernel)
  simp only [Option.any_eq_true, Bool.and_eq_true, beq_iff_eq, bne_iff_ne] at hpost
  obtain ⟨p,hp,hvisited,stages,hleft,hsame,hne⟩ := hpost
  obtain ⟨e,he⟩ := List.exists_mem_of_ne_nil _ hne
  have := hall c hc 1 p (bind_packet?.mp hp) stages hleft e he (hsame ▸ he)
  rw [hvisited] at this
  cases this

/-- On both managers: a firewall is installed and stays; while a NAT stage is being installed, the
rebuild has emptied the root's slot and a packet goes from the root straight to the exit. -/
theorem covered_fails : ¬AlwaysCovered .tc ∧ ¬AlwaysCovered .xdp :=
  ⟨not_alwaysCovered,not_alwaysCovered⟩

end Landscape.Chain
