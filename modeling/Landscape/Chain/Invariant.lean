import Landscape.Chain.Sound

/-! What holds between the steps of the calls: a chain is right, or a call in progress owes it. -/
namespace Landscape.Chain
open Interleave Writeback Function
variable {routes : Bool} {m : Manager} {s s' : State} {i j : Nat} {d : ChainDir}
  {logs : Nat → Option Log} {t : Nat} {l l' : CallLog} {e : StageEntry} {x : Log} {ws : LinkWrites}
  {st : StageType} {v : Option StageEntry}

/-- A root is there if a stage is, and behind it are the stages of its direction. -/
structure Right (s : State) (i : Nat) (d : ChainDir) : Prop where
  rooted : (∃ st, s.installed i st ≠ none) → (s.chain i d).root ≠ none
  linked : ∀ r, (s.chain i d).root = some r →
    Linked s.links d (.root r) (stagesFor (s.installed i) d)

theorem stagesFor_of_none (h : ∀ st, s.installed i st = none) :
    stagesFor (s.installed i) d = [] := by
  have : s.installed i = fun _ => none := funext h
  simp [stagesFor, this]

theorem right_of_none (hr : (s.chain i d).root = none) (hno : ∀ st, s.installed i st = none) :
    Right s i d := by
  refine ⟨fun ⟨st,hst⟩ => absurd (hno st) hst,fun r hr' => ?_⟩
  rw [hr] at hr'
  cases hr'

theorem mem_stagesFor (he : e ∈ stagesFor (s.installed i) d) :
    ∃ st, s.installed i st = some e := mem_filterMap_all.mp (List.mem_filter.mp he).1

theorem Right.congr (h : Right s i d) (hs : Sound m s) (hc : s'.chain i d = s.chain i d)
    (hi : s'.installed i = s.installed i)
    (hl : ∀ x, x.owner = (i, d) → s'.links x = s.links x) : Right s' i d := by
  refine ⟨by rw [hc, hi]; exact h.rooted,fun r hr => ?_⟩
  rw [hc] at hr
  rw [hi]
  obtain ⟨hri,hrd,-⟩ := hs.owned i d r hr
  refine (h.linked r hr).congr (by simp [Slot.owner, hri, hrd]) (fun e he => ?_) hl
  obtain ⟨st,hst⟩ := mem_stagesFor he
  exact (hs.typed i st e hst).1

/- A new root has an empty slot, and it is made where no stage is installed. -/
theorem Right.of_ensured (h : Right s j d) (hs : Sound m s) (he : Ensured s s' i) :
    Right s' j d := by
  have hinst : s'.installed j = s.installed j := by rw [he.installed]
  by_cases hj : j = i
  · subst hj
    refine ⟨?_,?_⟩
    · rw [hinst]
      exact fun hst => he.root_ne_none (h.rooted hst)
    · intro r hr
      rw [hinst, he.links]
      rcases he.root d with hsame | ⟨hnone,r',hr',-,-,hnew,-⟩
      · exact h.linked r (hsame ▸ hr)
      · cases hr'.symm.trans hr
        have hno : ∀ st, s.installed j st = none := by
          intro st
          by_contra hst
          exact h.rooted ⟨st,hst⟩ hnone
        rw [stagesFor_of_none hno]
        cases hl : s.links (.root r) with
        | none => exact hl
        | some e =>
          have := hs.fresh r e hl
          omega
  · refine h.congr hs (he.chain_other hj) hinst fun x _ => ?_
    rw [he.links]

theorem Right.of_same (h : Right s i d) (hs : Sound m s) (hsame : SameChains s s') :
    Right s' i d := by
  refine h.congr hs (hsame.chain i d) (by rw [hsame.installed]) fun x _ => ?_
  rw [hsame.links]

/- Who still has to rebuild the chain, or to take its roots away. -/
def Owes (s : State) (i : Nat) (d : ChainDir) : Log → Prop
  | .call l => l.ifindex = i ∧
      (l.owes d = true ∨ l.emptied = true ∧ ∀ st, s.installed i st = none)
  | .packet _ => False

theorem log_update {y : Log} {u : Nat} (h : update logs t (some x) u = some y) :
    u = t ∧ x = y ∨ u ≠ t ∧ logs u = some y := by
  rcases Table.update_eq_some h with ⟨hu,⟨⟩⟩ | h
  · exact .inl ⟨hu,rfl⟩
  · exact .inr h

def Free (logs : Nat → Option Log) : Prop :=
  ∀ t l, logs t = some (.call l) → l.rebuilding = none

/- The writes a rebuild has left to do link the stages behind the root, in slots of the chain. -/
structure Rebuilds (s : State) (l : CallLog) (d : ChainDir) (ws : LinkWrites) : Prop where
  owes : l.owes d = true
  linked : ∃ r, (s.chain l.ifindex d).root = some r ∧
    Linked (replay ws s.links) d (.root r) (stagesFor (s.installed l.ifindex) d)
  owner : ∀ w ∈ ws, w.1.owner = (l.ifindex, d)
  known : ∀ w ∈ ws, ∀ r, w.1 = .root r → r.id < s.nextId

theorem Rebuilds.right (h : Rebuilds s l d []) : Right s l.ifindex d := by
  obtain ⟨r,hroot,hlinked⟩ := h.linked
  refine ⟨fun _ => by simp [hroot],fun r' hr' => ?_⟩
  cases hroot.symm.trans hr'
  exact hlinked

structure Held (s : State) (logs : Nat → Option Log) : Prop where
  free : s.locked = false → Free logs
  alone : ∀ t u l k, logs t = some (.call l) → logs u = some (.call k) →
    l.rebuilding ≠ none → k.rebuilding ≠ none → t = u
  writes : ∀ t l d ws, logs t = some (.call l) → l.rebuilding = some (d, ws) → Rebuilds s l d ws

theorem Held.of_free (h : Free logs) : Held s logs where
  free _ := h
  alone t _ l _ hl _ hr _ := absurd (h t l hl) hr
  writes t l d ws hl hr := by
    rw [h t l hl] at hr
    cases hr

theorem Free.update (h : Free logs) (hx : ∀ l, x = .call l → l.rebuilding = none) :
    Free (update logs t (some x)) := by
  intro u k hk
  rcases log_update hk with ⟨-,hl⟩ | ⟨-,hk⟩
  · exact hx k hl
  · exact h u k hk

theorem Held.of_free_call (h : Free logs) (hl : l'.rebuilding = none) :
    Held s (update logs t (some (.call l'))) :=
  .of_free (h.update fun _ hk => Log.call.inj hk ▸ hl)

/- A step of the only call that may be rebuilding. -/
theorem Held.of_only (honly : ∀ u k, u ≠ t → logs u = some (.call k) → k.rebuilding = none)
    (hlock : s.locked ≠ false) (hw : ∀ d ws, l'.rebuilding = some (d, ws) → Rebuilds s l' d ws) :
    Held s (update logs t (some (.call l'))) where
  free h := absurd h hlock
  alone u v k k' hk hk' hkr hkr' := by
    rcases log_update hk with ⟨rfl,-⟩ | ⟨hu,hk⟩
    · rcases log_update hk' with ⟨rfl,-⟩ | ⟨hv,hk'⟩
      · rfl
      · exact absurd (honly v k' hv hk') hkr'
    · exact absurd (honly u k hu hk) hkr
  writes u k d ws hk hkr := by
    rcases log_update hk with ⟨-,⟨⟩⟩ | ⟨hu,hk⟩
    · exact hw d ws hkr
    · rw [honly u k hu hk] at hkr
      cases hkr

theorem Rebuilds.of_same (h : Rebuilds s l d ws) (hs : SameChains s s') : Rebuilds s' l d ws := by
  obtain ⟨r,hr,hlinked⟩ := h.linked
  refine ⟨h.owes,⟨r,by rw [hs.chain, hr],by rw [hs.links, hs.installed]; exact hlinked⟩,
    h.owner,?_⟩
  intro w hw r' hr'
  exact Nat.lt_of_lt_of_le (h.known w hw r' hr') hs.grows

/- A step of somebody who is not rebuilding, while another may be. -/
theorem Held.of_same (h : Held s logs) (hs : SameChains s s')
    (hlock : s'.locked = s.locked) (hx : ∀ l, x = .call l → l.rebuilding = none) :
    Held s' (update logs t (some x)) where
  free hf := (h.free (hlock ▸ hf)).update hx
  alone u v k k' hk hk' hr hr' := by
    rcases log_update hk with ⟨-,hl⟩ | ⟨-,hk⟩
    · exact absurd (hx k hl) hr
    · rcases log_update hk' with ⟨-,hl⟩ | ⟨-,hk'⟩
      · exact absurd (hx k' hl) hr'
      · exact h.alone u v k k' hk hk' hr hr'
  writes u k d ws hk hr := by
    rcases log_update hk with ⟨-,hl⟩ | ⟨-,hk⟩
    · rw [hx k hl] at hr
      cases hr
    · exact (h.writes u k d ws hk hr).of_same hs

/- The TC manager gives a stage no ingress root of its own: it relies on `ensure_roots`. Whether
   active routes count is a parameter: what a packet meets in a chain does not depend on them. -/
def Needs (routes : Bool) (m : Manager) (s : State) (logs : Nat → Option Log) (i : Nat) : Prop :=
  (routes = true ∧ s.active i = true) ∨ m = .tc ∧ ((∃ st, s.installed i st ≠ none) ∨
    ∃ t l, logs t = some (.call l) ∧ l.ifindex = i ∧ l.ensured = true)

theorem Needs.of_update (h : Needs routes m s' (update logs t (some x)) j)
    (ha : s'.active j = true → s.active j = true)
    (hst : ∀ st, s'.installed j st ≠ none → ∃ st', s.installed j st' ≠ none)
    (hx : ∀ k, x = .call k → k.ifindex = j → k.ensured = true →
      ∃ l, logs t = some (.call l) ∧ l.ifindex = j ∧ l.ensured = true) :
      Needs routes m s logs j := by
  rcases h with h | ⟨hm,⟨st,h⟩ | ⟨u,k,hk,hi,he⟩⟩
  · exact .inl ⟨h.1,ha h.2⟩
  · exact .inr ⟨hm,.inl (hst st h)⟩
  · rcases log_update hk with ⟨-,hl⟩ | ⟨-,hk⟩
    · obtain ⟨l,hl⟩ := hx k hl hi he
      exact .inr ⟨hm,.inr ⟨t,l,hl⟩⟩
    · exact .inr ⟨hm,.inr ⟨u,k,hk,hi,he⟩⟩

theorem Needs.of_call (ht : logs t = some (.call l))
    (h : Needs routes m s' (update logs t (some (.call l'))) j)
    (ha : s'.active j = true → s.active j = true) (hst : s'.installed = s.installed)
    (hl : l'.ifindex = l.ifindex ∧ l'.ensured = l.ensured) : Needs routes m s logs j := by
  refine h.of_update ha (fun st h => ⟨st,hst ▸ h⟩) ?_
  rintro k ⟨⟩ hk hke
  exact ⟨l,ht,hl.1.symm.trans hk,hl.2.symm.trans hke⟩

structure Inv (routes : Bool) (m : Manager) (s : State) (logs : Nat → Option Log) : Prop where
  sound : Sound m s
  held : Held s logs
  rooted : ∀ i, Needs routes m s logs i → ∀ d, (s.chain i d).root ≠ none
  right : ∀ i d, Owed (Right s i d) (Owes s i d) logs

theorem owes_of_installed (hst : s'.installed j = s.installed j) (h : Owes s j d x) :
    Owes s' j d x := by
  cases x with
  | call k => exact ⟨h.1,h.2.imp_right fun h => ⟨h.1,by rw [hst]; exact h.2⟩⟩
  | packet p => exact h

/- A debt is kept by a step that keeps the chain right or was not about it. -/
theorem Inv.right_act (hi : Inv routes m s logs) (ht : logs t = some (.call l))
    (hst : s'.installed j = s.installed j) (hgood : Right s j d → Right s' j d)
    (howes : l.ifindex = j → (l.owes d = true → l'.owes d = true) ∧
      (l.emptied = true → l'.emptied = true)) (hif : l'.ifindex = l.ifindex) :
    Owed (Right s' j d) (Owes s' j d) (update logs t (some (.call l'))) := by
  refine ((hi.right j d).mono hgood fun x => owes_of_installed hst).act ht .inl fun h => .inr ?_
  obtain ⟨h1,h2⟩ := howes h.1
  exact ⟨hif.trans h.1,h.2.imp h1 fun h => ⟨h2 h.1,h.2⟩⟩

section Steps
variable (hi : Inv routes m s logs) (ht : logs t = some (.call l))
include hi ht

theorem Inv.of_ensured (he : Ensured s s' i) (hp : s'.chains i .wanIngress ≠ none) {s'' : State}
    (hsame : SameChains s' s'') (hheld : Held s'' (update logs t (some (.call l'))))
    (hneeds : ∀ j, Needs routes m s'' (update logs t (some (.call l'))) j →
      Needs routes m s logs j ∨ ∀ d, (s'.chain j d).root ≠ none)
    (hif : l'.ifindex = l.ifindex) (howes : l'.owes = l.owes ∧ l'.emptied = l.emptied) :
    Inv routes m s'' (update logs t (some (.call l'))) := by
  have hsound : Sound m s' := hi.sound.of_ensured he hp
  have hinst : ∀ j, s''.installed j = s.installed j :=
    fun j => by rw [hsame.installed, he.installed]
  refine ⟨hsound.of_same hsame,hheld,?_,?_⟩
  · intro j hj d
    rw [hsame.chain]
    rcases hneeds j hj with h | h
    · exact he.root_ne_none (hi.rooted j h d)
    · exact h d
  · intro j d
    refine hi.right_act ht (hinst j) (fun h => (h.of_ensured hi.sound he).of_same hsound hsame) ?_
      hif
    intro _
    rw [howes.1, howes.2]
    exact ⟨id,id⟩

/-- The stages of `i` change in the books, and the call owes both chains or their removal. -/
theorem Inv.of_stageSet (hlock : s.locked = false) (hs : StageSet s s' i st v)
    (hv : ∀ e, v = some e → e.ifindex = i ∧ e.stage = st ∧ programsFit m e = true)
    (hp : m = .tc → s'.chains i .wanIngress = none → ∀ d, s'.chains i d = none)
    (hneeds : Needs routes m s' (update logs t (some (.call l'))) i → Needs routes m s logs i)
    (hif : l.ifindex = i ∧ l'.ifindex = i)
    (howes : ∀ d, Owes s' i d (.call l') ∨ Right s' i d) (hfree : l'.rebuilding = none) :
    Inv routes m s' (update logs t (some (.call l'))) := by
  refine ⟨hi.sound.of_stageSet hs hv hp,.of_free_call (hi.held.free hlock) hfree,?_,?_⟩
  · intro j hj d
    rw [hs.root]
    by_cases hji : j = i
    · subst hji
      exact hi.rooted j (hneeds hj) d
    · refine hi.rooted j (hj.of_update ?_ ?_ ?_) d
      · rw [hs.active]
        exact id
      · intro st' hst'
        rw [hs.installed, update_of_ne hji] at hst'
        exact ⟨st',hst'⟩
      · rintro k ⟨⟩ hk _
        exact absurd (hk.symm.trans hif.2) hji
  · intro j d
    by_cases hji : j = i
    · subst hji
      rcases howes d with h | h
      · exact .inr ⟨t,_,update_self _ _ _,h⟩
      · exact .inl h
    · have hinst : s'.installed j = s.installed j := by rw [hs.installed, update_of_ne hji]
      refine hi.right_act ht hinst ?_ ?_ (hif.2.trans hif.1.symm)
      · intro h
        exact h.congr hi.sound (chain_eq (hs.other j hji)) hinst fun x _ => by rw [hs.links]
      · intro h
        exact absurd (h.symm.trans hif.1) hji

theorem Inv.ensureRoots (hlock : s.locked = false) (hif : l.ifindex = i)
    (hfree : l.rebuilding = none) (route : Bool) : Inv routes m (exec m (.ensureRoots i route) s).2
      (update logs t (some (.call (l.record (.ensureRoots i route) ())))) := by
  have hactive : ∀ j, j ≠ i → (exec m (.ensureRoots i route) s).2.active j = s.active j := by
    intro j hj
    cases route <;> simp [exec, hj, (ensureRootsLocked_ensured s i).active]
  have hsame : SameChains (s.ensureRootsLocked i) (exec m (.ensureRoots i route) s).2 := by
    cases route <;> exact ⟨rfl,rfl,rfl,rfl,rfl,Nat.le_refl _⟩
  refine hi.of_ensured ht (ensureRootsLocked_ensured s i) ensureRootsLocked_present hsame
    (.of_free_call (hi.held.free hlock) hfree) (fun j hj => ?_) rfl ⟨rfl,rfl⟩
  by_cases hji : j = i
  · subst hji
    exact .inr (ensureRootsLocked_root s j)
  · refine .inl (hj.of_update (fun h => (hactive j hji).symm.trans h) (fun st hst => ⟨st,?_⟩) ?_)
    · rwa [hsame.installed, (ensureRootsLocked_ensured s i).installed] at hst
    · rintro k ⟨⟩ hk _
      exact absurd (hk.symm.trans hif) hji

theorem Inv.insertStage (hlock : s.locked = false) (hif : l.ifindex = i)
    (hfree : l.rebuilding = none) (he : e.ifindex = i ∧ e.stage = st ∧ programsFit m e = true)
    (hens : m = .tc → l.ensured = true) :
    Inv routes m (exec m (.insertStage i st e) s).2
      (update logs t (some (.call (l.record (.insertStage i st e) ())))) := by
  refine hi.of_stageSet ht hlock (insertStage_set hi.sound e) ?_ ?_ ?_ ⟨hif,hif⟩
    (fun d => .inl ⟨hif,.inl rfl⟩) hfree
  · rintro _ ⟨⟩
    exact he
  · simp [exec, Chain.insertStage]
  · rintro (h | ⟨hm,-⟩)
    · exact .inl h
    · exact .inr ⟨hm,.inr ⟨t,l,ht,hif,hens hm⟩⟩

end Steps

theorem removeStage_snd : (removeStage m i st s).2 = dropStage i st s := by
  unfold removeStage
  split
  · split <;> rfl
  · rfl

theorem removeStage_none (h : (removeStage m i st s).1 = none) :
    m = .tc ∧ s.chains i .wanIngress = none := by
  unfold removeStage at h
  split at h
  · split at h
    · rename_i hc
      exact ⟨rfl,hc⟩
    · cases h
  · cases h

theorem removeStage_some (hs : Sound m s) {b : Bool} (h : (removeStage m i st s).1 = some b) :
    b = true ↔ ∀ st', (dropStage i st s).installed i st' = none := by
  have hno : ∀ d, ((dropStage i st s).chain i d).noStages = true ↔
      ∀ st', (dropStage i st s).installed i st' = none := by
    intro d
    rw [noStages_iff, (dropStage_set hs st).here, (dropStage_set hs st).installed, update_self]
  unfold removeStage at h
  split at h
  · split at h
    · cases h
    · cases h
      exact hno _
  · cases h
    simp [hno]

section Steps
variable (hi : Inv routes m s logs) (ht : logs t = some (.call l))
include hi ht

theorem Inv.removeStage (hlock : s.locked = false) (hif : l.ifindex = i)
    (hfree : l.rebuilding = none) (st : StageType) : Inv routes m (exec m (.removeStage i st) s).2
      (update logs t (some (.call (l.record (.removeStage i st)
        (exec m (.removeStage i st) s).1)))) := by
  have hset := dropStage_set (i := i) hi.sound st
  have hsub : ∀ st', (dropStage i st s).installed i st' ≠ none → s.installed i st' ≠ none := by
    intro st' h
    rw [hset.installed, update_self] at h
    by_cases hst : st' = st
    · subst hst
      simp at h
    · simpa [hst] using h
  have key : ∀ r, (Chain.removeStage m i st s).1 = r →
      Inv routes m (dropStage i st s)
        (update logs t (some (.call (l.record (.removeStage i st) r)))) := by
    intro r hr
    refine hi.of_stageSet ht hlock hset nofun ?_ ?_ ⟨hif,?_⟩ ?_ ?_
    · intro hm hnone d
      have hpre := hi.sound.paired hm i (hset.present _ hnone) d
      simp [dropStage, hpre]
    · intro h
      refine h.of_update (by rw [hset.active]; exact id) (fun st' hst' => ⟨st',hsub st' hst'⟩) ?_
      rintro k ⟨⟩ hk hke
      rcases r with _ | _ | _ <;> exact ⟨l,ht,hk,hke⟩
    · rcases r with _ | _ | _ <;> exact hif
    · intro d
      rcases r with _ | b
      · obtain ⟨hm,hc⟩ := removeStage_none hr
        have hchain : s.chain i d = {} := by rw [State.chain, hi.sound.paired hm i hc d]; rfl
        refine .inr (right_of_none ?_ fun st' => ?_)
        · rw [hset.root, hchain]
        · by_contra h
          refine hsub st' h ?_
          rw [← hi.sound.book i d, hchain]
      · have := removeStage_some hi.sound hr
        cases b with
        | true => exact .inl ⟨hif,.inr ⟨rfl,this.mp rfl⟩⟩
        | false => exact .inl ⟨hif,.inl rfl⟩
    · rcases r with _ | _ | _ <;> exact hfree
  have := key _ rfl
  rw [← removeStage_snd] at this
  exact this

end Steps

/-- When a stage's removal may take the roots: nobody relies on them. On XDP it takes none while a
stage is installed. -/
def Spare (routes : Bool) (s : State) (logs : Nat → Option Log) (i : Nat) : Manager → Prop
  | .tc => (routes = true → s.active i = false) ∧ (∀ st, s.installed i st = none) ∧
      ∀ t l, logs t = some (.call l) → l.ifindex = i → l.ensured = false
  | .xdp => routes = true → s.active i = true → ∃ st, s.installed i st ≠ none

section Roots
variable {route : Bool}

theorem removeRoots_same :
    SameChains (Chain.removeRoots m i s) (exec m (.removeRoots i route) s).2 := by
  cases route <;> exact ⟨rfl,rfl,rfl,rfl,rfl,Nat.le_refl _⟩

theorem active_of_removeRoots (hact : (Chain.removeRoots m i s).active = s.active)
    (h : (exec m (.removeRoots i route) s).2.active j = true) :
    s.active j = true ∧ (route = true → j ≠ i) := by
  cases route with
  | true =>
    have h : update (Chain.removeRoots m i s).active i false j = true := h
    by_cases hj : j = i
    · simp [hj] at h
    · exact ⟨by simpa [hj, hact] using h,fun _ => hj⟩
  | false => exact ⟨hact ▸ h,nofun⟩

section Steps
variable (hi : Inv routes m s logs) (ht : logs t = some (.call l)) (hlock : s.locked = false)
  (hif : l.ifindex = i) (hfree : l.rebuilding = none) (hroute : route = true → m = .xdp)
  (hspare : route = false → Spare routes s logs i m)
include hi ht hif

section Empty
variable (hno : ∀ st, s.installed i st = none)
include hroute hspare hno

/-- Nobody relies on the roots a removal takes. -/
theorem Inv.not_needs : ¬Needs routes m (exec m (.removeRoots i route) s).2
    (update logs t (some (.call (l.record (.removeRoots i route) ())))) i := by
  have heq := removeRoots_eq hi.sound hno
  rintro (⟨hroutes,h⟩ | ⟨rfl,⟨st,h⟩ | ⟨u,k,hk,hki,hke⟩⟩)
  · obtain ⟨hact,hne⟩ := active_of_removeRoots (by rw [heq]; rfl) h
    cases route with
    | true => exact hne rfl rfl
    | false =>
      have hsp := hspare rfl
      cases m with
      | tc => simp [hsp.1 hroutes] at hact
      | xdp =>
        obtain ⟨st,hst⟩ := hsp hroutes hact
        exact hst (hno st)
  · rw [removeRoots_same.installed, heq] at h
    exact h (hno st)
  · cases route with
    | true => cases hroute rfl
    | false =>
      obtain ⟨-,-,hlog⟩ := hspare rfl
      rcases log_update hk with ⟨-,⟨⟩⟩ | ⟨-,hk⟩
      · exact absurd ((hlog t l ht hif).symm.trans hke) (by decide)
      · exact absurd ((hlog u k hk hki).symm.trans hke) (by decide)

include hlock hfree

theorem Inv.removeRoots_empty : Inv routes m (exec m (.removeRoots i route) s).2
    (update logs t (some (.call (l.record (.removeRoots i route) ())))) := by
  have heq := removeRoots_eq hi.sound hno
  have hsame : SameChains (s.dropRoots i) (exec m (.removeRoots i route) s).2 :=
    heq ▸ removeRoots_same
  have hinst : ∀ j, (exec m (.removeRoots i route) s).2.installed j = s.installed j := by
    intro j
    rw [hsame.installed]
    rfl
  have hother : ∀ j, j ≠ i → ∀ d, (exec m (.removeRoots i route) s).2.chain j d = s.chain j d := by
    intro j hj d
    rw [hsame.chain, chain_eq (dropRoots_chains_other hj)]
  refine ⟨(hi.sound.dropRoots hno).of_same hsame,.of_free_call (hi.held.free hlock) hfree,?_,?_⟩
  · intro j hj d
    by_cases hji : j = i
    · exact absurd (hji ▸ hj) (hi.not_needs ht hif hroute hspare hno)
    · rw [hother j hji]
      refine hi.rooted j (hj.of_update ?_ (fun st hst => ⟨st,hinst j ▸ hst⟩) ?_) d
      · exact fun h => (active_of_removeRoots (by rw [heq]; rfl) h).1
      · rintro k ⟨⟩ hk _
        exact absurd (hk.symm.trans hif) hji
  · intro j d
    by_cases hji : j = i
    · subst hji
      refine .inl (right_of_none ?_ fun st => by rw [hinst]; exact hno st)
      rw [hsame.chain, State.chain, dropRoots_chains_self]
      rfl
    · refine hi.right_act ht (hinst j) (fun h => h.congr hi.sound (hother j hji d) (hinst j) ?_) ?_
        rfl
      · intro x _
        rw [hsame.links]
        rfl
      · intro h
        exact absurd (h.symm.trans hif) hji

end Empty

include hlock hfree

/-- The XDP manager keeps the chains of an interface with a stage. -/
theorem Inv.removeRoots_kept (hm : m = .xdp) (hst : s.installed i st ≠ none) :
    Inv routes m (exec m (.removeRoots i route) s).2
      (update logs t (some (.call (l.record (.removeRoots i route) ())))) := by
  subst hm
  have heq := removeRoots_xdp_self hi.sound hst
  have hsame : SameChains s (exec .xdp (.removeRoots i route) s).2 := by
    have hsame := @removeRoots_same .xdp s i route
    rwa [heq] at hsame
  refine ⟨hi.sound.of_same hsame,.of_free_call (hi.held.free hlock) hfree,?_,?_⟩
  · intro j hj d
    rw [hsame.chain]
    refine hi.rooted j (hj.of_call ht ?_ hsame.installed ⟨rfl,rfl⟩) d
    exact fun h => (active_of_removeRoots (by rw [heq]) h).1
  · intro j d
    refine ((hi.right j d).mono (fun h => h.of_same hi.sound hsame)
      fun x => owes_of_installed (by rw [hsame.installed])).act ht .inl ?_
    rintro ⟨hj,h | ⟨-,h⟩⟩
    · exact .inr ⟨hj,.inl h⟩
    · rw [← hj, hif, hsame.installed] at h
      exact absurd (h st) hst

include hroute hspare

theorem Inv.removeRoots : Inv routes m (exec m (.removeRoots i route) s).2
    (update logs t (some (.call (l.record (.removeRoots i route) ())))) := by
  by_cases hno : ∀ st, s.installed i st = none
  · exact hi.removeRoots_empty ht hlock hif hfree hroute hspare hno
  · -- Only the XDP manager is here while a stage is installed.
    have hm : m = .xdp := by
      cases route with
      | true => exact hroute rfl
      | false =>
        cases m with
        | tc => exact absurd (hspare rfl).2.1 hno
        | xdp => rfl
    obtain ⟨st,hst⟩ := not_forall.mp hno
    exact hi.removeRoots_kept ht hlock hif hfree hm hst

end Steps

end Roots

/- The two ways a rebuild starts: the TC manager leaves an interface without ingress root alone. -/
theorem rebuildStart_cases :
    (m = .tc ∧ (s.chain i d).root = none ∧ rebuildStart m i d s = (none, s)) ∨
    ∃ r, ((rebuildRoots m i d s).chain i d).root = some r ∧ rebuildStart m i d s =
      (some (rebuildWrites m d r ((rebuildRoots m i d s).chain i d)),
        { rebuildRoots m i d s with locked := true }) := by
  unfold rebuildStart
  split
  · rename_i h
    obtain ⟨hm,rfl,hr⟩ := h
    exact .inl ⟨hm,hr,rfl⟩
  · obtain ⟨r,hr⟩ := Option.ne_none_iff_exists'.mp rebuildRoots_root
    refine .inr ⟨r,hr,?_⟩
    simp only [hr]

theorem Sound.rebuilds (hs : Sound m s) {r : ChainRoot} (hr : (s.chain i d).root = some r)
    (hif : l.ifindex = i) (howes : l.owes d = true) :
    Rebuilds s l d (rebuildWrites m d r (s.chain i d)) := by
  have htyped : ∀ st e, (s.chain i d).stages st = some e →
      e.ifindex = i ∧ e.stage = st ∧ programsFit m e = true := by
    intro st e h
    rw [hs.book] at h
    exact hs.typed i st e h
  obtain ⟨hri,hrd,hrid⟩ := hs.owned i d r hr
  have howner : ∀ w ∈ rebuildWrites m d r (s.chain i d), w.1.owner = (i, d) := by
    refine rebuildWrites_owner ⟨hri,hrd⟩ fun e he => ?_
    obtain ⟨st,hst⟩ := mem_filterMap_all.mp he
    exact (htyped st e hst).1
  have hlinked := linked_rebuildWrites m d r
    (nodup_filterMap_all fun st e h => (htyped st e h).2.1) s.links
  rw [sortedStages_eq fun st e h => (htyped st e h).2.2, hs.book] at hlinked
  subst hif
  refine ⟨howes,⟨r,hr,hlinked⟩,howner,fun w hw r' hr' => ?_⟩
  rcases rebuildWrites_root hw hr' with rfl
  exact hrid

section Steps
variable (hi : Inv routes m s logs) (ht : logs t = some (.call l))
include hi ht

theorem Inv.rebuild (hlock : s.locked = false) (hif : l.ifindex = i) (hfree : l.rebuilding = none)
    (howes : l.owes d = true) : Inv routes m (exec m (.rebuild i d) s).2
      (update logs t (some (.call (l.record (.rebuild i d) (exec m (.rebuild i d) s).1)))) := by
  have hfreeAll := hi.held.free hlock
  rcases rebuildStart_cases with ⟨hm,hroot,heq⟩ | ⟨r,hr,heq⟩
  · have hno : ∀ st, s.installed i st = none := by
      intro st
      by_contra h
      exact hi.rooted i (.inr ⟨hm,.inl ⟨st,h⟩⟩) d hroot
    rw [show exec m (.rebuild i d) s = (none, s) from heq]
    refine ⟨hi.sound,.of_free_call hfreeAll hfree,?_,?_⟩
    · intro j hj
      exact hi.rooted j (hj.of_call ht id rfl ⟨rfl,rfl⟩)
    · intro j d'
      by_cases hj : j = i ∧ d' = d
      · rw [hj.1, hj.2]
        exact .inl (right_of_none hroot hno)
      · refine hi.right_act ht rfl id (fun h => ⟨fun ho => ?_,id⟩) rfl
        have hd : d' ≠ d := fun hd => hj ⟨h.symm.trans hif,hd⟩
        exact (update_of_ne hd _ _).trans ho
  · rw [show exec m (.rebuild i d) s = _ from heq]
    have he := rebuildRoots_ensured m i d s
    have hsame : SameChains (rebuildRoots m i d s) { rebuildRoots m i d s with locked := true } :=
      ⟨rfl,rfl,rfl,rfl,rfl,Nat.le_refl _⟩
    have hsound := hi.sound.of_ensured he rebuildRoots_present
    refine hi.of_ensured ht he rebuildRoots_present hsame
      (.of_only (fun u k _ => hfreeAll u k) (by simp) ?_) ?_ rfl ⟨rfl,rfl⟩
    · rintro d' ws ⟨⟩
      refine (hsound.rebuilds hr ?_ ?_).of_same hsame
      · exact hif
      · exact howes
    · intro j hj
      exact .inl (hj.of_call ht (fun h => he.active ▸ h) he.installed ⟨rfl,rfl⟩)

theorem Inv.setLink {c : Slot} (hr : l.rebuilding = some (d, (c, v) :: ws)) :
    Inv routes m (exec m (.setLink c v) s).2
      (update logs t (some (.call (l.record (.setLink c v) ())))) := by
  have hw := hi.held.writes t l d _ ht hr
  have hl' : (l.record (.setLink c v) ()).rebuilding = some (d, ws) := by simp [CallLog.record, hr]
  have hlocked : s.locked ≠ false := by
    intro h
    rw [hi.held.free h t l ht] at hr
    cases hr
  have honly : ∀ u k, u ≠ t → logs u = some (.call k) → k.rebuilding = none := by
    intro u k hu hk
    by_contra hne
    exact hu (hi.held.alone u t k l hk ht hne (by simp [hr]))
  refine ⟨hi.sound.setLink fun r hc => hw.known _ List.mem_cons_self r hc,.of_only honly hlocked ?_,
    ?_,?_⟩
  · intro d' ws' hkr
    cases hl'.symm.trans hkr
    exact ⟨hw.owes,hw.linked,fun w h => hw.owner w (List.mem_cons_of_mem _ h),
      fun w h => hw.known w (List.mem_cons_of_mem _ h)⟩
  · intro j hj
    exact hi.rooted j (hj.of_call ht id rfl ⟨rfl,rfl⟩)
  · intro j d'
    by_cases hj : (l.ifindex, d) = (j, d')
    · cases hj
      exact .inr ⟨t,_,update_self _ _ _,rfl,.inl hw.owes⟩
    · refine hi.right_act ht rfl (fun h => ?_) (fun _ => ⟨id,id⟩) rfl
      refine h.congr hi.sound rfl rfl fun x hx => update_of_ne ?_ _ _
      rintro rfl
      exact hj ((hw.owner _ List.mem_cons_self).symm.trans hx)

theorem Inv.unlock (hr : l.rebuilding = some (d, [])) :
    Inv routes m (exec m .unlock s).2 (update logs t (some (.call (l.record .unlock ())))) := by
  have hw := hi.held.writes t l d _ ht hr
  have hl' : l.record .unlock () =
      { l with rebuilding := none, owes := update l.owes d false } := by
    simp [CallLog.record, hr]
  have hsame : SameChains s (exec m .unlock s).2 := ⟨rfl,rfl,rfl,rfl,rfl,Nat.le_refl _⟩
  rw [hl']
  refine ⟨hi.sound.of_same hsame,.of_free ?_,?_,?_⟩
  · intro u k hk
    rcases log_update hk with ⟨-,hl⟩ | ⟨hu,hk⟩
    · cases hl
      rfl
    · by_contra hne
      exact hu (hi.held.alone u t k l hk ht hne (by simp [hr]))
  · intro j hj
    exact hi.rooted j (hj.of_call ht id rfl ⟨rfl,rfl⟩)
  · intro j d'
    by_cases hj : l.ifindex = j ∧ d' = d
    · obtain ⟨rfl,rfl⟩ := hj
      exact .inl (hw.right.of_same hi.sound hsame)
    · refine hi.right_act ht rfl (fun h => h.of_same hi.sound hsame)
        (fun h => ⟨fun ho => ?_,id⟩) rfl
      have hd : d' ≠ d := fun hd => hj ⟨h,hd⟩
      exact (update_of_ne hd _ _).trans ho

end Steps

theorem Inv.of_same (hi : Inv routes m s logs) (hsame : SameChains s s')
    (hlock : s'.locked = s.locked) (hact : ∀ j, s'.active j = true → s.active j = true)
    (hx : ∀ k, x = .call k → k.rebuilding = none ∧ (k.ensured = true →
      ∃ l, logs t = some (.call l) ∧ l.ifindex = k.ifindex ∧ l.ensured = true))
    (howed : ∀ j d, Owed (Right s j d) (Owes s j d) (update logs t (some x))) :
    Inv routes m s' (update logs t (some x)) := by
  refine ⟨hi.sound.of_same hsame,hi.held.of_same hsame hlock fun k hk => (hx k hk).1,?_,?_⟩
  · intro j hj d
    rw [hsame.chain]
    refine hi.rooted j (hj.of_update (hact j) (fun st h => ⟨st,hsame.installed ▸ h⟩) ?_) d
    rintro k hk rfl hke
    exact (hx k hk).2 hke
  · intro j d
    refine (howed j d).mono (fun h => h.of_same hi.sound hsame) fun y => owes_of_installed ?_
    rw [hsame.installed]

theorem Inv.start (hi : Inv routes m s logs) (ht : logs t = none) (hsame : SameChains s s')
    (hlock : s'.locked = s.locked) (hact : ∀ j, s'.active j = true → s.active j = true)
    (hx : ∀ k, x = .call k → k.rebuilding = none ∧ k.ensured = false) :
    Inv routes m s' (update logs t (some x)) := by
  refine hi.of_same hsame hlock hact (fun k hk => ⟨(hx k hk).1,fun h => ?_⟩) fun j d =>
    (hi.right j d).start ht x .inl
  rw [(hx k hk).2] at h
  cases h

def Returned : Log → Prop
  | .call l => l.rebuilding = none ∧ l.emptied = false ∧ l.owes = fun _ => false
  | .packet _ => True

theorem Inv.finish (hi : Inv routes m s logs) (ht : logs t = some x) (hx : Returned x) :
    Inv routes m s (update logs t none) := by
  have hsub : ∀ u y, update logs t none u = some y → logs u = some y :=
    fun _ _ hy => (Table.of_update_none hy).2
  refine ⟨hi.sound,⟨?_,?_,?_⟩,?_,?_⟩
  · intro hf u k hk
    exact hi.held.free hf u k (hsub u _ hk)
  · intro u v k k' hk hk'
    exact hi.held.alone u v k k' (hsub u _ hk) (hsub v _ hk')
  · intro u k d ws hk
    exact hi.held.writes u k d ws (hsub u _ hk)
  · intro j hj
    refine hi.rooted j ?_
    rcases hj with h | ⟨hm,h | ⟨u,k,hk,h⟩⟩
    · exact .inl h
    · exact .inr ⟨hm,.inl h⟩
    · exact .inr ⟨hm,.inr ⟨u,k,hsub u _ hk,h⟩⟩
  · intro j d
    refine (hi.right j d).finish ht fun ho => ?_
    cases x with
    | call l =>
      obtain ⟨-,hem,how⟩ := hx
      rcases ho.2 with h | ⟨h,-⟩
      · simp [how] at h
      · simp [hem] at h
    | packet p => exact ho

end Landscape.Chain
