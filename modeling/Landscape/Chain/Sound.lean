import Landscape.Chain.Links

/-! The books of a chain manager, the kernel tables and what the services asked for agree. -/
namespace Landscape.Chain
open Function
variable {m : Manager} {s s' : State} {i : Nat} {d : ChainDir} {v : Option StageEntry}
  {st : StageType}

structure Sound (m : Manager) (s : State) : Prop where
  book : ∀ i d, (s.chain i d).stages = s.installed i
  table : ∀ i d, s.rootProgs d i = (s.chain i d).root
  dispatch : ∀ i, s.introDispatch i = (s.chain i .wanIngress).root.isSome
  paired : m = .tc → ∀ i, s.chains i .wanIngress = none → ∀ d, s.chains i d = none
  owned : ∀ i d r, (s.chain i d).root = some r → r.ifindex = i ∧ r.dir = d ∧ r.id < s.nextId
  fresh : ∀ r e, s.links (.root r) = some e → r.id < s.nextId
  typed : ∀ i st e, s.installed i st = some e →
    e.ifindex = i ∧ e.stage = st ∧ programsFit m e = true

theorem Sound.of_ensured (h : Sound m s) (he : Ensured s s' i)
    (hp : s'.chains i .wanIngress ≠ none) : Sound m s' where
  book j d := by rw [he.stages, he.installed, h.book]
  table := he.table h.table
  dispatch := he.dispatch h.dispatch
  paired hm j hj d := by
    by_cases hji : j = i
    · subst hji
      exact absurd hj hp
    · rw [he.other j hji] at hj ⊢
      exact h.paired hm j hj d
  owned j d r hr := by
    by_cases hji : j = i
    · subst hji
      rcases he.root d with hsame | ⟨-,r',hr',hi,hd,-,hlt⟩
      · obtain ⟨h1,h2,h3⟩ := h.owned j d r (hsame ▸ hr)
        exact ⟨h1,h2,Nat.lt_of_lt_of_le h3 he.grows⟩
      · cases hr'.symm.trans hr
        exact ⟨hi,hd,hlt⟩
    · rw [he.chain_other hji] at hr
      obtain ⟨h1,h2,h3⟩ := h.owned j d r hr
      exact ⟨h1,h2,Nat.lt_of_lt_of_le h3 he.grows⟩
  fresh r e hr := Nat.lt_of_lt_of_le (h.fresh r e (by rw [← he.links]; exact hr)) he.grows
  typed j st e hst := h.typed j st e (by rw [← he.installed]; exact hst)

structure SameChains (s s' : State) : Prop where
  chains : s'.chains = s.chains
  rootProgs : s'.rootProgs = s.rootProgs
  introDispatch : s'.introDispatch = s.introDispatch
  links : s'.links = s.links
  installed : s'.installed = s.installed
  grows : s.nextId ≤ s'.nextId

theorem SameChains.chain (h : SameChains s s') (i : Nat) (d : ChainDir) :
    s'.chain i d = s.chain i d := by rw [State.chain, State.chain, h.chains]

theorem Sound.of_same (h : Sound m s) (hs : SameChains s s') : Sound m s' where
  book j d := by rw [hs.chain, hs.installed, h.book]
  table j d := by rw [hs.chain, hs.rootProgs, h.table]
  dispatch j := by rw [hs.chain, hs.introDispatch, h.dispatch]
  paired := by rw [hs.chains]; exact h.paired
  owned j d r hr := by
    rw [hs.chain] at hr
    obtain ⟨h1,h2,h3⟩ := h.owned j d r hr
    exact ⟨h1,h2,Nat.lt_of_lt_of_le h3 hs.grows⟩
  fresh r e hr := Nat.lt_of_lt_of_le (h.fresh r e (by rw [← hs.links]; exact hr)) hs.grows
  typed := by rw [hs.installed]; exact h.typed

theorem Sound.setLink (h : Sound m s) {c : Slot}
    (hc : ∀ r, c = .root r → r.id < s.nextId) : Sound m { s with links := update s.links c v } where
  book := h.book
  table := h.table
  dispatch := h.dispatch
  paired := h.paired
  owned := h.owned
  fresh r e hr := by
    by_cases hcr : c = .root r
    · exact hc r hcr
    · have hne : Slot.root r ≠ c := fun h => hcr h.symm
      have hr' : update s.links c v (.root r) = some e := hr
      rw [update_of_ne hne] at hr'
      exact h.fresh r e hr'
  typed := h.typed

structure StageSet (s s' : State) (i : Nat) (st : StageType) (v : Option StageEntry) : Prop where
  here : ∀ d, (s'.chain i d).stages = update (s.installed i) st v
  root : ∀ j d, (s'.chain j d).root = (s.chain j d).root
  other : ∀ j, j ≠ i → s'.chains j = s.chains j
  present : ∀ d, s'.chains i d = none → s.chains i d = none
  installed : s'.installed = update s.installed i (update (s.installed i) st v)
  rootProgs : s'.rootProgs = s.rootProgs
  introDispatch : s'.introDispatch = s.introDispatch
  links : s'.links = s.links
  nextId : s'.nextId = s.nextId
  active : s'.active = s.active
  locked : s'.locked = s.locked

theorem insertStage_set (h : Sound m s) (e : StageEntry) :
    StageSet s (insertStage i st e s) i st (some e) := by
  have hchain : ∀ d, (insertStage i st e s).chain i d =
      { s.chain i d with stages := update (s.chain i d).stages st (some e) } := by
    intro d
    simp [State.chain, insertStage]
  have hother : ∀ j, j ≠ i → (insertStage i st e s).chains j = s.chains j := by
    intro j hj
    simp [insertStage, hj]
  refine ⟨?_,?_,hother,?_,rfl,rfl,rfl,rfl,rfl,rfl,rfl⟩
  · intro d
    rw [hchain, h.book]
  · intro j d
    by_cases hj : j = i
    · rw [hj, hchain]
    · rw [chain_eq (hother j hj)]
  · simp [insertStage]

theorem dropStage_set (h : Sound m s) (st : StageType) :
    StageSet s (dropStage i st s) i st none := by
  have hother : ∀ j, j ≠ i → (dropStage i st s).chains j = s.chains j := by
    intro j hj
    simp [dropStage, hj]
  have hhere : ∀ d, (dropStage i st s).chains i d =
      (s.chains i d).map fun c => { c with stages := update c.stages st none } := by
    intro d
    simp [dropStage]
  refine ⟨?_,?_,hother,?_,rfl,rfl,rfl,rfl,rfl,rfl,rfl⟩
  · intro d
    have hbook := h.book i d
    cases hc : s.chains i d with
    | none =>
      have hnone : s.installed i = fun _ => none := by simpa [State.chain, hc] using hbook.symm
      simp [State.chain, hhere, hc, hnone]
    | some c =>
      rw [← hbook]
      simp [State.chain, hhere, hc]
  · intro j d
    by_cases hj : j = i
    · subst hj
      cases hc : s.chains j d <;> simp [State.chain, hhere, hc]
    · rw [chain_eq (hother j hj)]
  · intro d hd
    simpa [hhere] using hd

theorem Sound.of_stageSet (h : Sound m s) (hs : StageSet s s' i st v)
    (hv : ∀ e, v = some e → e.ifindex = i ∧ e.stage = st ∧ programsFit m e = true)
    (hp : m = .tc → s'.chains i .wanIngress = none → ∀ d, s'.chains i d = none) : Sound m s' where
  book j d := by
    by_cases hj : j = i
    · subst hj
      rw [hs.here, hs.installed, update_self]
    · rw [chain_eq (hs.other j hj), hs.installed, update_of_ne hj, h.book]
  table j d := by rw [hs.rootProgs, hs.root, h.table]
  dispatch j := by rw [hs.introDispatch, hs.root, h.dispatch]
  paired hm j hj d := by
    by_cases hji : j = i
    · subst hji
      exact hp hm hj d
    · rw [hs.other j hji] at hj ⊢
      exact h.paired hm j hj d
  owned j d r hr := by
    rw [hs.root] at hr
    rw [hs.nextId]
    exact h.owned j d r hr
  fresh r e hr := by
    rw [hs.links] at hr
    rw [hs.nextId]
    exact h.fresh r e hr
  typed j st' e he := by
    rw [hs.installed, Table.update_update_apply] at he
    split at he
    · rename_i hj
      exact hj.1 ▸ hj.2 ▸ hv e he
    · exact h.typed j st' e he

theorem dropChain_self (hc : s.chains i d = none) (ht : s.rootProgs d i = none)
    (hd : d = .wanIngress → s.introDispatch i = false) : s.dropChain i d = s := by
  have h1 : update (s.chains i) d none = s.chains i := by rw [← hc, update_eq_self]
  have h2 : update (s.rootProgs d) i none = s.rootProgs d := by rw [← ht, update_eq_self]
  have h3 : (if d = .wanIngress then update s.introDispatch i false else s.introDispatch) =
      s.introDispatch := by
    split
    · rename_i h
      rw [← hd h, update_eq_self]
    · rfl
  rw [State.dropChain, h1, h2, h3, update_eq_self, update_eq_self]

def State.dropRoots (s : State) (i : Nat) : State :=
  (s.dropChain i .wanIngress).dropChain i .wanEgress

theorem dropChain_comm : (s.dropChain i .wanEgress).dropChain i .wanIngress = s.dropRoots i := by
  simp only [State.dropRoots, State.dropChain, update_self, update_idem]
  congr 1
  · rw [update_comm (by decide)]
  · funext d
    cases d <;> simp

theorem Sound.rootProgs_of_none (h : Sound m s) (hc : s.chains i d = none) :
    s.rootProgs d i = none := by
  rw [h.table, State.chain, hc]
  rfl

theorem Sound.dropChain_self (h : Sound m s) (hc : s.chains i d = none) : s.dropChain i d = s := by
  refine Chain.dropChain_self hc (h.rootProgs_of_none hc) ?_
  rintro rfl
  rw [h.dispatch, State.chain, hc]
  rfl

theorem noStages_of_installed (h : Sound m s) (hno : ∀ st, s.installed i st = none) (d : ChainDir) :
    (s.chain i d).noStages = true := by
  rw [noStages_iff, h.book]
  exact hno

theorem removeChainLocked_eq {s₀ : State} (h : Sound m s₀) (hno : ∀ st, s₀.installed i st = none)
    (hsame : s.chains i d = s₀.chains i d) (hself : s.chains i d = none → s.dropChain i d = s) :
    removeChainLocked i d s = s.dropChain i d := by
  unfold removeChainLocked
  split
  · rename_i hc
    exact (hself hc).symm
  · rename_i c hc
    have := noStages_of_installed h hno d
    rw [State.chain, ← hsame, hc] at this
    exact if_pos this

/-- With no stage installed both managers delete the interface's chains and their entries. -/
theorem removeRoots_eq (h : Sound m s) (hno : ∀ st, s.installed i st = none) :
    removeRoots m i s = s.dropRoots i := by
  cases m with
  | tc =>
    simp only [removeRoots]
    split
    · rename_i hc
      have hall := h.paired rfl i hc
      rw [State.dropRoots, h.dropChain_self (hall _), h.dropChain_self (hall _)]
    · rfl
  | xdp =>
    have hfirst : removeChainLocked i .wanEgress s = s.dropChain i .wanEgress :=
      removeChainLocked_eq h hno rfl h.dropChain_self
    have hkeep : (s.dropChain i .wanEgress).chains i .wanIngress = s.chains i .wanIngress := by
      simp [State.dropChain]
    rw [removeRoots, hfirst, removeChainLocked_eq h hno hkeep ?_, dropChain_comm]
    intro hc
    refine Chain.dropChain_self hc ?_ fun _ => ?_
    · simpa [State.dropChain] using h.rootProgs_of_none (hkeep.symm.trans hc)
    · have := h.dispatch i
      rw [State.chain, hkeep.symm.trans hc] at this
      simpa [State.dropChain] using this

/-- While a stage is installed the XDP manager keeps the chains. -/
theorem removeRoots_xdp_self (h : Sound .xdp s) (hst : s.installed i st ≠ none) :
    removeRoots .xdp i s = s := by
  have hkeep : ∀ d, removeChainLocked i d s = s := by
    intro d
    unfold removeChainLocked
    split
    · rfl
    · rename_i c hc
      refine if_neg fun hno => hst ?_
      rw [← h.book i d, State.chain, hc]
      exact noStages_iff.mp hno st
  rw [removeRoots, hkeep, hkeep]

theorem dropRoots_chains_self : (s.dropRoots i).chains i d = none := by
  cases d <;> simp [State.dropRoots, State.dropChain]

theorem dropRoots_chains_other {j : Nat} (hj : j ≠ i) : (s.dropRoots i).chains j = s.chains j := by
  simp [State.dropRoots, State.dropChain, hj]

theorem Sound.dropRoots (h : Sound m s) (hno : ∀ st, s.installed i st = none) :
    Sound m (s.dropRoots i) where
  book j d := by
    by_cases hj : j = i
    · subst hj
      rw [State.chain, dropRoots_chains_self]
      funext st
      exact (hno st).symm
    · rw [chain_eq (dropRoots_chains_other hj), h.book]
      rfl
  table j d := by
    by_cases hj : j = i
    · subst hj
      rw [State.chain, dropRoots_chains_self]
      cases d <;> simp [State.dropRoots, State.dropChain]
    · rw [chain_eq (dropRoots_chains_other hj), ← h.table]
      cases d <;> simp [State.dropRoots, State.dropChain, hj]
  dispatch j := by
    by_cases hj : j = i
    · subst hj
      rw [State.chain, dropRoots_chains_self]
      simp [State.dropRoots, State.dropChain]
    · rw [chain_eq (dropRoots_chains_other hj), ← h.dispatch]
      simp [State.dropRoots, State.dropChain, hj]
  paired hm j hj d := by
    by_cases hji : j = i
    · subst hji
      exact dropRoots_chains_self
    · rw [dropRoots_chains_other hji] at hj ⊢
      exact h.paired hm j hj d
  owned j d r hr := by
    by_cases hj : j = i
    · subst hj
      rw [State.chain, dropRoots_chains_self] at hr
      cases hr
    · rw [chain_eq (dropRoots_chains_other hj)] at hr
      exact h.owned j d r hr
  fresh := h.fresh
  typed := h.typed

end Landscape.Chain
