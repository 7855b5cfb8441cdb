import Landscape.Chain.Manager

/-! Chains of slots: what the writes of a rebuild leave behind. -/
namespace Landscape.Chain
open Writeback Function List
variable {links links' : Slot → Option StageEntry} {d : ChainDir} {c : Slot} {es : List StageEntry}
  {e : StageEntry}

def Linked (links : Slot → Option StageEntry) (d : ChainDir) : Slot → List StageEntry → Prop
  | c, [] => links c = none
  | c, e :: es => links c = some e ∧ Linked links d (.next e d) es

theorem follow_of_linked {n : Nat} (h : Linked links d c es) (hn : es.length < n) :
    follow links d n c = some es := by
  induction es generalizing c n with
  | nil =>
    obtain ⟨n,rfl⟩ : ∃ k, n = k + 1 := ⟨n - 1,by omega⟩
    simp only [Linked] at h
    simp [follow, h]
  | cons e es ih =>
    obtain ⟨n,rfl⟩ : ∃ k, n = k + 1 := ⟨n - 1,by omega⟩
    obtain ⟨hc,hrest⟩ := h
    have hlen : es.length < n := by simpa using hn
    simp [follow, hc, ih hrest hlen]

def Slot.owner : Slot → Nat × ChainDir
  | .root r => (r.ifindex, r.dir)
  | .next e d => (e.ifindex, d)

theorem Linked.congr {i : Nat} (h : Linked links d c es) (hc : c.owner = (i, d))
    (hes : ∀ e ∈ es, e.ifindex = i) (hl : ∀ x, x.owner = (i, d) → links' x = links x) :
    Linked links' d c es := by
  induction es generalizing c with
  | nil => exact (hl c hc).trans h
  | cons e es ih =>
    refine ⟨(hl c hc).trans h.1,ih h.2 ?_ fun x hx => hes x (mem_cons_of_mem _ hx)⟩
    simp [Slot.owner, hes e mem_cons_self]

theorem touches_linkWrites {x : Slot} (h : (linkWrites d c es).Touches x) :
    x = c ∨ ∃ e ∈ es, x = .next e d := by
  induction es generalizing c with
  | nil => exact absurd h not_touches_nil
  | cons e es ih =>
    obtain ⟨w,hw,rfl⟩ := h
    rcases mem_cons.mp hw with rfl | hw
    · exact .inl rfl
    · rcases ih ⟨w,hw,rfl⟩ with h | ⟨e',he',h⟩
      · exact .inr ⟨e,mem_cons_self,h⟩
      · exact .inr ⟨e',mem_cons_of_mem _ he',h⟩

/-- Writing the links of different stages into empty slots links them. -/
theorem linked_linkWrites (hnodup : es.Nodup) (hc : links c = none)
    (hes : ∀ e ∈ es, links (.next e d) = none ∧ c ≠ .next e d) :
    Linked (replay (linkWrites d c es) links) d c es := by
  induction es generalizing c links with
  | nil => exact hc
  | cons e es ih =>
    obtain ⟨hne,hnodup⟩ := nodup_cons.mp hnodup
    have hkeep : ¬(linkWrites d (.next e d) es).Touches c := by
      intro h
      rcases touches_linkWrites h with h | ⟨e',he',h⟩
      · exact (hes e mem_cons_self).2 h
      · exact (hes e' (mem_cons_of_mem _ he')).2 h
    refine ⟨?_,ih hnodup ?_ ?_⟩
    · simp [linkWrites, replay, replay_of_not_touches hkeep]
    · obtain ⟨hempty,hother⟩ := hes e mem_cons_self
      rw [update_of_ne hother.symm, hempty]
    · intro e' he'
      obtain ⟨hempty,hother⟩ := hes e' (mem_cons_of_mem _ he')
      refine ⟨by rw [update_of_ne hother.symm, hempty],?_⟩
      rintro ⟨⟩
      exact hne he'

section Rebuild
variable {m : Manager} {r : ChainRoot} {ch : ChainState} {i : Nat}

theorem mem_sortedStages (h : e ∈ sortedStages m d ch) : e ∈ ch.entries ∧ hasNext m d e = true := by
  simp only [sortedStages, mem_filter] at h
  exact ⟨h.1.1,h.2⟩

/-- After all its writes a rebuild has linked the sorted stages behind the root, whatever the slots
held before. -/
theorem linked_rebuildWrites (m : Manager) (d : ChainDir) (r : ChainRoot)
    (hnodup : ch.entries.Nodup) (links : Slot → Option StageEntry) :
    Linked (replay (rebuildWrites m d r ch) links) d (.root r) (sortedStages m d ch) := by
  have hsub : (sortedStages m d ch).Nodup :=
    (hnodup.sublist filter_sublist).sublist filter_sublist
  rw [rebuildWrites, replay_append, replay]
  refine linked_linkWrites hsub (update_self _ _ _) fun e he => ⟨?_,by simp⟩
  obtain ⟨hmem,hnext⟩ := mem_sortedStages he
  refine replay_of_all ⟨(.next e d, none),?_,rfl⟩ ?_ links
  · exact mem_map.mpr ⟨e,mem_filter.mpr ⟨hmem,hnext⟩,rfl⟩
  · intro w hw _
    obtain ⟨e',-,rfl⟩ := mem_map.mp hw
    rfl

theorem linkWrites_owner (hc : c.owner = (i, d)) (hes : ∀ e ∈ es, e.ifindex = i) :
    ∀ w ∈ linkWrites d c es, w.1.owner = (i, d) := by
  intro w hw
  rcases touches_linkWrites ⟨w,hw,rfl⟩ with h | ⟨e,he,h⟩
  · rw [h, hc]
  · rw [h]
    simp [Slot.owner, hes e he]

/-- A rebuild writes slots of its own chain only. -/
theorem rebuildWrites_owner (hr : r.ifindex = i ∧ r.dir = d)
    (hes : ∀ e ∈ ch.entries, e.ifindex = i) :
    ∀ w ∈ rebuildWrites m d r ch, w.1.owner = (i, d) := by
  have hroot : (Slot.root r).owner = (i, d) := by simp [Slot.owner, hr.1, hr.2]
  intro w hw
  simp only [rebuildWrites, mem_append, mem_cons] at hw
  rcases hw with hw | rfl | hw
  · obtain ⟨e,he,rfl⟩ := mem_map.mp hw
    simp [Slot.owner, hes e (mem_filter.mp he).1]
  · exact hroot
  · exact linkWrites_owner hroot (fun e he => hes e (mem_sortedStages he).1) w hw

theorem rebuildWrites_root {w : Slot × Option StageEntry} {r' : ChainRoot}
    (hw : w ∈ rebuildWrites m d r ch) (hr : w.1 = .root r') : r' = r := by
  simp only [rebuildWrites, mem_append, mem_cons] at hw
  rcases hw with hw | rfl | hw
  · obtain ⟨e,-,rfl⟩ := mem_map.mp hw
    cases hr
  · cases hr
    rfl
  · rcases touches_linkWrites ⟨w,hw,hr⟩ with h | ⟨e,-,h⟩
    · cases h
      rfl
    · cases h

end Rebuild

section Stages
variable {stages : StageType → Option StageEntry}

theorem mem_all (st : StageType) : st ∈ StageType.all := by cases st <;> decide

theorem nodup_all : StageType.all.Nodup := by decide

theorem mem_filterMap_all : e ∈ StageType.all.filterMap stages ↔ ∃ st, stages st = some e := by
  simp [mem_filterMap, mem_all]

/-- Stages that know their type are all different. -/
theorem nodup_filterMap_all (h : ∀ st e, stages st = some e → e.stage = st) :
    (StageType.all.filterMap stages).Nodup := by
  refine List.Nodup.filterMap (fun st st' e he he' => ?_) nodup_all
  rw [← h st e he, ← h st' e he']

theorem noStages_iff {ch : ChainState} : ch.noStages = true ↔ ∀ st, ch.stages st = none := by
  simp [ChainState.noStages, mem_all]

theorem length_stagesFor (stages : StageType → Option StageEntry) (d : ChainDir) :
    (stagesFor stages d).length ≤ 4 :=
  le_trans (length_filter_le _ _) (length_filterMap_le _ _)

/-- What a rebuild links is what serves the direction: on XDP only PPPoE lacks a program. -/
theorem sortedStages_eq {m : Manager} {ch : ChainState}
    (hfit : ∀ st e, ch.stages st = some e → programsFit m e = true) :
    sortedStages m d ch = stagesFor ch.stages d := by
  rw [sortedStages, filter_filter, stagesFor]
  refine filter_congr fun e he => ?_
  obtain ⟨st,hst⟩ := mem_filterMap_all.mp he
  cases m with
  | tc => rfl
  | xdp =>
    have := hfit st e hst
    simp only [programsFit, Bool.and_eq_true, Bool.or_eq_true, decide_eq_true_eq] at this
    cases d with
    | wanIngress =>
      rcases this.2 with h | h
      · simp [StageEntry.hasProg, h]
      · simp [h]
    | wanEgress => simp [StageEntry.hasProg, this.1]

end Stages

variable {m : Manager} {s s' : State} {i : Nat} {j : Nat}

structure Ensured (s s' : State) (i : Nat) : Prop where
  stages : ∀ j d, (s'.chain j d).stages = (s.chain j d).stages
  other : ∀ j, j ≠ i → s'.chains j = s.chains j
  present : ∀ d, s'.chains i d = none → s.chains i d = none
  root : ∀ d, (s'.chain i d).root = (s.chain i d).root ∨
    ((s.chain i d).root = none ∧ ∃ r, (s'.chain i d).root = some r ∧
      r.ifindex = i ∧ r.dir = d ∧ s.nextId ≤ r.id ∧ r.id < s'.nextId)
  table : (∀ j d, s.rootProgs d j = (s.chain j d).root) →
    ∀ j d, s'.rootProgs d j = (s'.chain j d).root
  dispatch : (∀ j, s.introDispatch j = (s.chain j .wanIngress).root.isSome) →
    ∀ j, s'.introDispatch j = (s'.chain j .wanIngress).root.isSome
  grows : s.nextId ≤ s'.nextId
  links : s'.links = s.links
  locked : s'.locked = s.locked
  active : s'.active = s.active
  installed : s'.installed = s.installed
  settled : s'.settled = s.settled

theorem Ensured.refl (s : State) (i : Nat) : Ensured s s i where
  stages _ _ := rfl
  other _ _ := rfl
  present _ h := h
  root _ := .inl rfl
  table h := h
  dispatch h := h
  grows := le_refl _
  links := rfl
  locked := rfl
  active := rfl
  installed := rfl
  settled := rfl

theorem Ensured.trans {s₁ s₂ s₃ : State} (h : Ensured s₁ s₂ i) (h' : Ensured s₂ s₃ i) :
    Ensured s₁ s₃ i where
  stages j d := (h'.stages j d).trans (h.stages j d)
  other j hj := (h'.other j hj).trans (h.other j hj)
  present d hd := h.present d (h'.present d hd)
  root d := by
    rcases h'.root d with h₂ | ⟨hnone,r,hr,hi,hd,hlo,hhi⟩
    · rcases h.root d with h₁ | ⟨hnone,r,hr,hi,hd,hlo,hhi⟩
      · exact .inl (h₂.trans h₁)
      · exact .inr ⟨hnone,r,h₂.trans hr,hi,hd,hlo,lt_of_lt_of_le hhi h'.grows⟩
    · rcases h.root d with h₁ | ⟨-,r',hr',-⟩
      · exact .inr ⟨h₁.symm.trans hnone,r,hr,hi,hd,le_trans h.grows hlo,hhi⟩
      · rw [hr'] at hnone
        cases hnone
  table ht := h'.table (h.table ht)
  dispatch ht := h'.dispatch (h.dispatch ht)
  grows := le_trans h.grows h'.grows
  links := h'.links.trans h.links
  locked := h'.locked.trans h.locked
  active := h'.active.trans h.active
  installed := h'.installed.trans h.installed
  settled := h'.settled.trans h.settled

theorem chain_eq {d : ChainDir} (h : s'.chains j = s.chains j) :
    s'.chain j d = s.chain j d := by rw [State.chain, State.chain, h]

theorem Ensured.chain_other (h : Ensured s s' i) (hj : j ≠ i) :
    s'.chain j d = s.chain j d := chain_eq (h.other j hj)

theorem chain_setChain (c : ChainState) (j : Nat) (d' : ChainDir) :
    (s.setChain i d c).chain j d' = if j = i ∧ d' = d then c else s.chain j d' := by
  by_cases hj : j = i
  · subst hj
    by_cases hd : d' = d
    · subst hd
      simp [State.chain, State.setChain]
    · simp [State.chain, State.setChain, hd]
  · simp [State.chain, State.setChain, hj]

theorem createRoot_ensured (hnone : (s.chain i d).root = none) :
    Ensured s (s.createRoot i d) i := by
  have hchain : ∀ j d', (s.createRoot i d).chain j d' =
      if j = i ∧ d' = d then { s.chain i d with root := some ⟨i,d,s.nextId⟩ }
      else s.chain j d' := chain_setChain _
  refine ⟨?_,?_,?_,?_,?_,?_,Nat.le_succ _,rfl,rfl,rfl,rfl,rfl⟩
  · intro j d'
    rw [hchain]
    split
    · rename_i h
      rw [h.1, h.2]
    · rfl
  · intro j hj
    simp [State.createRoot, State.setChain, hj]
  · intro d' h
    by_cases hd : d' = d
    · subst hd
      simp [State.createRoot, State.setChain] at h
    · simpa [State.createRoot, State.setChain, hd] using h
  · intro d'
    rw [hchain]
    split
    · rename_i h
      rw [h.2]
      exact .inr ⟨hnone,_,rfl,rfl,rfl,Nat.le_refl _,Nat.lt_succ_self _⟩
    · exact .inl rfl
  · intro ht j d'
    rw [hchain]
    split
    · rename_i h
      simp [State.createRoot, h.1, h.2]
    · rename_i h
      rw [← ht]
      by_cases hd : d' = d
      · subst hd
        have hj : j ≠ i := fun hj => h ⟨hj,rfl⟩
        simp [State.createRoot, hj]
      · simp [State.createRoot, hd]
  · intro ht j
    rw [hchain]
    by_cases hd : d = .wanIngress
    · subst hd
      by_cases hj : j = i
      · simp [State.createRoot, hj]
      · simp [State.createRoot, hj, ht]
    · have : ¬(j = i ∧ ChainDir.wanIngress = d) := fun h => hd h.2.symm
      simp [State.createRoot, hd, this, ht]

theorem ensureRoot_ensured : Ensured s (s.ensureRoot i d) i := by
  unfold State.ensureRoot
  split
  · exact .refl s i
  · rename_i h
    exact createRoot_ensured h

theorem ensureRootsLocked_ensured (s : State) (i : Nat) : Ensured s (s.ensureRootsLocked i) i :=
  ensureRoot_ensured.trans ensureRoot_ensured

theorem ensureRoot_root : ((s.ensureRoot i d).chain i d).root ≠ none := by
  unfold State.ensureRoot
  split
  · rename_i r h
    simp [h]
  · simp [State.createRoot, State.setChain, State.chain]

theorem Ensured.root_kept (h : Ensured s s' i) {r : ChainRoot}
    (hr : (s.chain j d).root = some r) : (s'.chain j d).root = some r := by
  by_cases hj : j = i
  · subst hj
    rcases h.root d with h | ⟨hnone,-⟩
    · exact h.trans hr
    · rw [hr] at hnone
      cases hnone
  · rw [h.chain_other hj, hr]

theorem Ensured.root_ne_none (h : Ensured s s' i) (hr : (s.chain j d).root ≠ none) :
    (s'.chain j d).root ≠ none := by
  obtain ⟨r,hr⟩ := Option.ne_none_iff_exists'.mp hr
  simp [h.root_kept hr]

theorem ensureRootsLocked_root (s : State) (i : Nat) (d : ChainDir) :
    ((s.ensureRootsLocked i).chain i d).root ≠ none := by
  cases d with
  | wanIngress => exact ensureRoot_ensured.root_ne_none ensureRoot_root
  | wanEgress => exact ensureRoot_root

theorem setChain_ensured : Ensured s (s.setChain i d (s.chain i d)) i := by
  have hchain : ∀ j d', (s.setChain i d (s.chain i d)).chain j d' = s.chain j d' := by
    intro j d'
    rw [chain_setChain]
    split
    · rename_i h
      rw [h.1, h.2]
    · rfl
  refine ⟨fun j d' => by rw [hchain],?_,?_,fun d' => .inl (by rw [hchain]),?_,?_,
    le_refl _,rfl,rfl,rfl,rfl,rfl⟩
  · intro j hj
    simp [State.setChain, hj]
  · intro d' h
    by_cases hd : d' = d
    · subst hd
      simp [State.setChain] at h
    · simpa [State.setChain, hd] using h
  · intro ht j d'
    rw [hchain]
    exact ht j d'
  · intro ht j
    rw [hchain]
    exact ht j

theorem rebuildRoots_ensured (m : Manager) (i : Nat) (d : ChainDir) (s : State) :
    Ensured s (rebuildRoots m i d s) i := by
  unfold rebuildRoots
  split
  · exact setChain_ensured.trans ensureRoot_ensured
  · exact ensureRootsLocked_ensured s i

theorem rebuildRoots_root : ((rebuildRoots m i d s).chain i d).root ≠ none := by
  unfold rebuildRoots
  split
  · exact ensureRoot_root
  · exact ensureRootsLocked_root s i d

/- A root is never made for an interface whose record is missing. -/
theorem ensureRootsLocked_present : (s.ensureRootsLocked i).chains i .wanIngress ≠ none := by
  intro h
  have := ensureRootsLocked_root s i .wanIngress
  simp [State.chain, h] at this

theorem rebuildRoots_present : (rebuildRoots m i d s).chains i .wanIngress ≠ none := by
  unfold rebuildRoots
  split
  · intro h
    have := ensureRoot_ensured.present _ h
    simp [State.setChain] at this
  · exact ensureRootsLocked_present

end Landscape.Chain
