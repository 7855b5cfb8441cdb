import Landscape.Chain.Invariant

/-! What the calls and the packets do, in which order. -/
namespace Landscape.Chain
open Interleave Function List
variable {m : Manager} {i : Nat} {d : ChainDir} {l : CallLog} {p : PacketLog}

def contract (m : Manager) : Contract Op Res Log where
  Allowed
    | .call l, .ensureRoots i _ => l.ifindex = i ∧ l.rebuilding = none
    | .call l, .insertStage i st e => l.ifindex = i ∧ l.rebuilding = none ∧
        (e.ifindex = i ∧ e.stage = st ∧ programsFit m e = true) ∧ (m = .tc → l.ensured = true) ∧
        l.entry = some e
    | .call l, .removeStage i _ => l.ifindex = i ∧ l.rebuilding = none ∧ l.entry = none
    | .call l, .removeRoots i route => l.ifindex = i ∧ l.rebuilding = none ∧
        (route = true → m = .xdp)
    | .call l, .rebuild i d => l.ifindex = i ∧ l.rebuilding = none ∧ l.owes d = true
    | .call l, .setLink c v => ∃ d ws, l.rebuilding = some (d, (c, v) :: ws)
    | .call l, .unlock => ∃ d, l.rebuilding = some (d, [])
    | .call l, .settle i st e => l.rebuilding = none ∧ l.entry = some e ∧
        (l.owes = fun _ => false) ∧ e.ifindex = i ∧ e.stage = st
    | .packet p, .enter i d => p = { ifindex := i, dir := d }
    | .packet p, .tailCall c => p.at? = some c ∧ p.missed = false
    | .packet p, .leave i => p.ifindex = i ∧ p.missed = true
    | _, _ => False
  Answers _ _ _ := True

abbrev Does (m : Manager) {α : Type} (Q : α → Log → Prop) (p : P α) (x : Log) : Prop :=
  Meets (machine m) (contract m) Q p x

theorem relink_does {ws : LinkWrites} (hr : l.rebuilding = some (d, ws)) :
    Does m (fun _ x => x = .call { l with rebuilding := none, owes := update l.owes d false })
      (relink ws) (.call l) := by
  induction ws generalizing l with
  | nil =>
    refine ⟨⟨d,hr⟩,fun _ _ => ?_⟩
    simp [Meets, machine, record, CallLog.record, hr]
  | cons w ws ih =>
    refine ⟨⟨d,ws,hr⟩,fun _ _ => ?_⟩
    exact ih (l := l.record (.setLink w.1 w.2) ()) (by simp [CallLog.record, hr])

theorem rebuild_does (hif : l.ifindex = i) (hfree : l.rebuilding = none) (ho : l.owes d = true) :
    Does m (fun _ x => x = .call { l with owes := update l.owes d false })
      (rebuild i d) (.call l) := by
  refine ⟨⟨hif,hfree,ho⟩,fun r _ => ?_⟩
  cases r with
  | none => rfl
  | some ws =>
    refine (relink_does (l := { l with rebuilding := some (d, ws) }) rfl).mono ?_
    rintro _ x rfl
    rw [← hfree]

theorem rebuildBoth_does (hif : l.ifindex = i) (hfree : l.rebuilding = none)
    (ho : l.owes = fun _ => true) : Does m (fun _ x => x = .call { l with owes := fun _ => false })
      (rebuildBoth m i) (.call l) := by
  have htwo : ∀ a b : ChainDir, a ≠ b →
      Does m (fun _ x => x = .call { l with owes := fun _ => false })
        (do rebuild i a; rebuild i b) (.call l) := by
    intro a b hab
    refine Meets.call (rebuild_does hif hfree (by rw [ho])) ?_
    rintro _ x rfl
    refine (rebuild_does (l := { l with owes := update l.owes a false }) hif hfree ?_).mono ?_
    · simp [ho, hab.symm]
    · rintro _ x rfl
      have : update (update l.owes a false) b false = fun _ => false := by
        funext d
        cases a <;> cases b <;> cases d <;> simp_all
      rw [this]
  cases m with
  | tc | xdp => exact htwo _ _ (by decide)

theorem install_does {e : StageEntry} {ensures : Bool} (hfit : programsFit m e = true)
    (hens : m = .tc → ensures = true) : Does m (fun _ x => Returned x) (install m ensures e)
      (.call { ifindex := e.ifindex, entry := some e }) := by
  have hinject : ∀ l : CallLog, l.ifindex = e.ifindex → l.rebuilding = none → l.emptied = false →
      l.entry = some e → (m = .tc → l.ensured = true) → Does m (fun _ x => Returned x)
        (do inject m e.ifindex e.stage e; access (.settle e.ifindex e.stage e)) (.call l) := by
    intro l hif hfree hem hent hl
    refine Meets.call (P := fun _ x => x = .call { l with owes := fun _ => false }) ?_ ?_
    · exact ⟨⟨hif,hfree,⟨rfl,rfl,hfit⟩,hl,hent⟩,fun _ _ =>
        rebuildBoth_does (l := { l with owes := fun _ => true }) hif hfree rfl⟩
    · rintro _ x rfl
      exact ⟨⟨hfree,hent,rfl,rfl,rfl⟩,fun _ _ => ⟨hfree,hem,rfl⟩⟩
  cases ensures with
  | true => exact ⟨⟨rfl,rfl⟩,fun _ _ => hinject _ rfl rfl rfl rfl fun _ => rfl⟩
  | false => exact hinject _ rfl rfl rfl rfl fun hm => absurd (hens hm) (by decide)

theorem remove_does (st : StageType) :
    Does m (fun _ x => Returned x) (remove m i st) (.call { ifindex := i }) := by
  refine ⟨⟨rfl,rfl,rfl⟩,fun r _ => ?_⟩
  have hdone : ∀ l : CallLog, l.ifindex = i → l.rebuilding = none → l.emptied = false →
      (l.owes = fun _ => true) → Does m (fun _ x => Returned x) (rebuildBoth m i) (.call l) := by
    intro l hif hfree hem ho
    refine (rebuildBoth_does hif hfree ho).mono ?_
    rintro _ x rfl
    exact ⟨hfree,hem,rfl⟩
  cases r with
  | none => exact ⟨rfl,rfl,rfl⟩
  | some b =>
    cases m with
    | tc =>
      cases b with
      | true => exact ⟨⟨rfl,rfl,nofun⟩,fun _ _ => ⟨rfl,rfl,rfl⟩⟩
      | false => exact hdone _ rfl rfl rfl rfl
    | xdp =>
      refine ⟨⟨?_,?_,nofun⟩,fun _ _ => ?_⟩
      · cases b <;> rfl
      · cases b <;> rfl
      · cases b with
        | true => exact ⟨rfl,rfl,rfl⟩
        | false => exact hdone _ rfl rfl rfl rfl

theorem walk_does (ends : StageType → Bool) (n : Nat) {c : Slot}
    (hc : p.at? = some c) (hm : p.missed = false) (hi : p.ifindex = i) (hd : p.dir = d) :
    Does m (fun _ x => Returned x) (walk i d ends n c) (.packet p) := by
  induction n generalizing p c with
  | zero => trivial
  | succ n ih =>
    refine ⟨⟨hc,hm⟩,fun r _ => ?_⟩
    cases r with
    | none => exact ⟨⟨hi,rfl⟩,fun _ _ => trivial⟩
    | some e =>
      show Does m _ (if ends e.stage then pure () else walk i d ends n (.next e d)) _
      split
      · trivial
      · subst hd
        exact ih rfl hm hi rfl

theorem packet_does (ends : StageType → Bool) :
    Does m (fun _ x => Returned x) (packet i d ends) (.packet { ifindex := i, dir := d }) := by
  refine ⟨rfl,fun r _ => ?_⟩
  obtain ⟨r,stages⟩ := r
  cases r with
  | none => trivial
  | some r => exact walk_does ends _ rfl rfl rfl rfl

variable {routes : Bool}

/-- The mutex, and no removal of a stage takes roots that somebody relies on. -/
def sparing (routes : Bool) (m : Manager) : Schedule Op State Log Event :=
  ⟨fun _ _ => True,fun s logs t o =>
    mutex.acts s logs t o ∧ ∀ i,o = .removeRoots i false → Spare routes s logs i m⟩

theorem inv_init : Inv routes m {} fun _ => none where
  sound := by
    refine ⟨?_,?_,?_,?_,?_,?_,?_⟩ <;> intros <;> first | rfl | simp_all [State.chain]
  held := .of_free nofun
  rooted i h := by rcases h with ⟨-,h⟩ | ⟨-,⟨_,h⟩ | ⟨_,_,h,-⟩⟩ <;> simp at h
  right i d := .inl (right_of_none rfl fun _ => rfl)

variable {s : State} {logs : Nat → Option Log} {t : Nat}

theorem launch_does {e : Event} {s' : State} {th : Thread Op Res Log}
    (h : launch m e s = some (s', th)) :
    SameChains s s' ∧ s'.locked = s.locked ∧ (∀ j, s'.active j = true → s.active j = true) ∧
    (∀ k, th.log = .call k → k.rebuilding = none ∧ k.ensured = false) ∧
    Does m (fun _ x => Returned x) th.prog th.log := by
  have hrefl : SameChains s s := ⟨rfl,rfl,rfl,rfl,rfl,Nat.le_refl _⟩
  cases e with
  | activate i =>
    cases h
    refine ⟨hrefl,rfl,fun _ h => h,?_,⟨rfl,rfl⟩,fun _ _ => ⟨rfl,rfl,rfl⟩⟩
    rintro k ⟨⟩
    exact ⟨rfl,rfl⟩
  | shutdown i =>
    cases m with
    | tc =>
      cases h
      refine ⟨⟨rfl,rfl,rfl,rfl,rfl,Nat.le_refl _⟩,rfl,fun j hj => ?_,?_,rfl,rfl,rfl⟩
      · have hj : update s.active i false j = true := hj
        by_cases hji : j = i
        · simp [hji] at hj
        · simpa [hji] using hj
      · rintro k ⟨⟩
        exact ⟨rfl,rfl⟩
    | xdp =>
      cases h
      refine ⟨hrefl,rfl,fun _ h => h,?_,⟨rfl,rfl,fun _ => rfl⟩,fun _ _ => ⟨rfl,rfl,rfl⟩⟩
      rintro k ⟨⟩
      exact ⟨rfl,rfl⟩
  | install i st ingress egress ensures =>
    simp only [launch] at h
    split at h
    · rename_i hok
      cases h
      simp only [Bool.and_eq_true, Bool.or_eq_true, decide_eq_true_eq] at hok
      refine ⟨⟨rfl,rfl,rfl,rfl,rfl,Nat.le_succ _⟩,rfl,fun _ h => h,?_,
        install_does hok.1 fun hm => ?_⟩
      · rintro k ⟨⟩
        exact ⟨rfl,rfl⟩
      · rcases hok.2 with h | h
        · rw [h] at hm
          cases hm
        · exact h
    · cases h
  | remove i st =>
    cases h
    refine ⟨⟨rfl,rfl,rfl,rfl,rfl,Nat.le_refl _⟩,rfl,fun _ h => h,?_,remove_does st⟩
    rintro k ⟨⟩
    exact ⟨rfl,rfl⟩
  | packet i d ends =>
    cases h
    refine ⟨hrefl,rfl,fun _ h => h,?_,packet_does ends⟩
    rintro k ⟨⟩

theorem Inv.packet (hi : Inv routes m s logs) (ht : logs t = some (.packet p))
    (p' : PacketLog) : Inv routes m s (update logs t (some (.packet p'))) := by
  refine hi.of_same ⟨rfl,rfl,rfl,rfl,rfl,Nat.le_refl _⟩ rfl (fun _ h => h)
    nofun fun j d => ?_
  exact (hi.right j d).act ht .inl fun h => h.elim

theorem Inv.settle {l : CallLog} (hi : Inv routes m s logs) (ht : logs t = some (.call l))
    (hfree : l.rebuilding = none) (i : Nat) (st : StageType) (e : StageEntry) :
    Inv routes m (exec m (.settle i st e) s).2 (update logs t (some (.call l))) := by
  have hsame : SameChains s (exec m (.settle i st e) s).2 := by
    simp only [exec]
    split <;> exact ⟨rfl,rfl,rfl,rfl,rfl,Nat.le_refl _⟩
  refine hi.of_same hsame ?_ (fun j h => ?_) ?_ fun j d => ?_
  · simp only [exec]
    split <;> rfl
  · simp only [exec] at h
    split at h <;> exact h
  · rintro k ⟨⟩
    exact ⟨hfree,fun h => ⟨l,ht,rfl,h⟩⟩
  · exact (hi.right j d).act ht .inl .inr

theorem pipeline_outline :
    Outline (machine m) (contract m) (sparing routes m) Returned (Inv routes m) where
  start s logs t e s' th hi ht _ hl := by
    obtain ⟨hsame,hlock,hact,hx,hdoes⟩ := launch_does hl
    exact ⟨hi.start ht hsame hlock hact hx,hdoes⟩
  act s logs t x o hi ht hr ha := by
    refine ⟨trivial,?_⟩
    have hlock := hr.1
    cases x with
    | packet p =>
      cases o <;> first | exact hi.packet ht _ | exact ha.elim
    | call l =>
      cases o with
      | ensureRoots i route => exact hi.ensureRoots ht (hlock rfl) ha.1 ha.2 route
      | insertStage i st e => exact hi.insertStage ht (hlock rfl) ha.1 ha.2.1 ha.2.2.1 ha.2.2.2.1
      | removeStage i st => exact hi.removeStage ht (hlock rfl) ha.1 ha.2.1 st
      | removeRoots i route =>
        refine hi.removeRoots ht (hlock rfl) ha.1 ha.2.1 ha.2.2 ?_
        rintro rfl
        exact hr.2 i rfl
      | rebuild i d => exact hi.rebuild ht (hlock rfl) ha.1 ha.2.1 ha.2.2
      | setLink c v =>
        obtain ⟨d,ws,h⟩ := ha
        exact hi.setLink ht h
      | unlock =>
        obtain ⟨d,h⟩ := ha
        exact hi.unlock ht h
      | settle i st e => exact hi.settle ht ha.1 i st e
      | enter i d | tailCall c | leave i => exact ha.elim
  finish s logs t x hi ht hx := hi.finish ht hx

/-- The root is registered, for ingress also for dispatch, and the slots lead from it through the
installed stages of the direction to the exit. -/
def InPlace (s : State) (i : Nat) (d : ChainDir) : Prop :=
  ∃ r, s.rootProgs d i = some r ∧ (d = .wanIngress → s.introDispatch i = true) ∧
    follow s.links d maxTailCallCnt (.root r) = some (stagesFor (s.installed i) d)

/-- Every interface with an active route or an installed stage has both chains in place. -/
def LiveStages (s : State) : Prop :=
  ∀ i, (s.active i = true ∨ ∃ st, s.installed i st ≠ none) → ∀ d, InPlace s i d

theorem Inv.inPlace (hi : Inv true m s logs) {i : Nat} {d : ChainDir}
    (hlive : s.active i = true ∨ ∃ st, s.installed i st ≠ none) (hright : Right s i d) :
    InPlace s i d := by
  have hroot : (s.chain i d).root ≠ none := by
    rcases hlive with h | h
    · exact hi.rooted i (.inl ⟨rfl,h⟩) d
    · exact hright.rooted h
  obtain ⟨r,hr⟩ := Option.ne_none_iff_exists'.mp hroot
  refine ⟨r,by rw [hi.sound.table, hr],?_,?_⟩
  · rintro rfl
    rw [hi.sound.dispatch, hr]
    rfl
  · have := length_stagesFor (s.installed i) d
    exact follow_of_linked (hright.linked r hr) (by rw [maxTailCallCnt]; omega)

def CallsDone (c : Config Op Res State Log) : Prop := ∀ t l, c.logs t ≠ some (.call l)

/-- As long as removals of stages spare the roots somebody relies on, the chains hold exactly the
installed stages whenever no call is in progress. -/
theorem live_stages_of_sparing (m : Manager) (c : Config Op Res State Log)
    (h : Reach (machine m) (sparing true m) ⟨{},fun _ => none⟩ c) (hdone : CallsDone c) :
    LiveStages c.shared := by
  have hi := pipeline_outline.reach inv_init h
  intro i hlive d
  refine hi.inPlace hlive ?_
  rcases hi.right i d with h | ⟨t,x,hx,ho⟩
  · exact h
  · cases x with
    | call l => exact absurd hx (hdone t l)
    | packet p => exact ho.elim

def sampleRun : List (Label Event) :=
  [.start 0 (.activate 1), .act 0, .finish 0,
    .start 0 (.install 1 .firewall true true true), .start 1 (.install 1 .nat true true true),
    .act 0, .act 1, .act 0, .act 1] ++ replicate 7 (.act 1) ++ replicate 7 (.act 0) ++
    replicate 8 (.act 1) ++ replicate 8 (.act 0) ++ [.finish 1, .finish 0] ++
    [.start 0 (.remove 1 .firewall)] ++ replicate 11 (.act 0) ++ [.finish 0]

theorem sparing_of_check (s : State) (logs : Nat → Option Log) (t : Nat) (o : Op)
    (_ : ∀ u, 2 ≤ u → logs u = none)
    (h : ((!o.locks || !s.locked) &&
      (match o with | .removeRoots _ false => false | _ => true)) = true) :
    (sparing true .tc).acts s logs t o := by
  simp only [Bool.and_eq_true, Bool.or_eq_true, Bool.not_eq_true'] at h
  refine ⟨fun ho => h.1.resolve_left (by simp [ho]),?_⟩
  rintro i rfl
  cases h.2

theorem live_stages_sample : ∃ c, Reach (machine .tc) (sparing true .tc) ⟨{},fun _ => none⟩ c ∧
    (c.shared.active 1 && (c.shared.installed 1 .nat).isSome) = true ∧ LiveStages c.shared := by
  obtain ⟨c,hc,hquiet,hpost⟩ := reach_of_quietRun (machine .tc) sampleRun 2 {} sparing_of_check
    (fun _ _ => trivial) (fun s => (s.active 1 && (s.installed 1 .nat).isSome) = true)
      (by decide +kernel)
  exact ⟨c,hc,hpost,live_stages_of_sparing .tc c hc fun t l => by simp [logsOf, hquiet t]⟩

theorem mutex_of_check {s : State} {logs : Nat → Option Log} {t : Nat} {o : Op}
    (h : (!o.locks || !s.locked) = true) :
    mutex.acts s logs t o := by
  intro ho
  simpa [ho] using h

def AlwaysLive (m : Manager) : Prop :=
  ∀ c, Reach (machine m) mutex ⟨{},fun _ => none⟩ c → CallsDone c → LiveStages c.shared

theorem not_alwaysLive : ¬AlwaysLive m := by
  intro hall
  obtain ⟨c,hc,hquiet,hactive,hnone⟩ := reach_of_quietRun (machine m)
    ([.start 0 (.activate 1), .act 0, .finish 0, .start 0 (.install 1 .firewall true true true)] ++
      replicate 13 (.act 0) ++ [.finish 0, .start 0 (.remove 1 .firewall), .act 0, .act 0,
        .finish 0])
    1 {} (fun _ _ _ _ _ => mutex_of_check) (fun _ _ => trivial)
    (fun s => s.active 1 ∧ (s.rootProgs .wanIngress 1).isNone) (by cases m <;> decide +kernel)
  obtain ⟨r,hr,-⟩ := hall c hc (fun t l => by simp [logsOf, hquiet t]) 1 (.inl hactive) .wanIngress
  simp [hr] at hnone

/-- On both managers: a route is active, a stage is put in and taken out again, and the roots of the
active route are gone. -/
theorem live_stages_fails : ¬AlwaysLive .tc ∧ ¬AlwaysLive .xdp :=
  ⟨not_alwaysLive,not_alwaysLive⟩

end Landscape.Chain
