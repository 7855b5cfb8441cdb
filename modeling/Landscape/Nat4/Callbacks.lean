import Landscape.Nat4.Programs

/-! The timer callback keeps its contract: one specification for each step of
`nat4_handle_timer_step`. -/
namespace Landscape.Nat4
open Function
variable {env : Env} {l l' : Log} {c : Ct} {α : Type}

abbrev MayReturn (env : Env) (c : Ct) (p : M α) (l : Log) : Prop :=
  Keeps env (fun _ l' => Allowed env l' (.timerReturn c)) p l

structure Log.Fired (l : Log) (c : Ct) (st : TimerStatus) : Prop extends l.Fresh where
  callback : l.callback = some c
  status : l.status = some st
  eg : l.eg = some (ctClientKey c, c.key.pairIp.dstAddr)
  found : l.found = none
  ct : l.ct = none
  closed : l.closed = false
  gave : l.gave = false
  mine : l.mine = none

theorem start_readStatus (env : Env) (c : Ct) (st : TimerStatus) :
    Allowed env (.start (some c)) (.readStatus c) ∧
      (record (.start (some c)) (.readStatus c) st).Fired c st := by
  refine ⟨?_,⟨rfl,rfl,rfl,rfl⟩,rfl,rfl,rfl,rfl,rfl,rfl,rfl,rfl⟩
  rintro c' ⟨⟩
  exact ⟨rfl,⟨rfl,rfl,rfl,rfl⟩,rfl,rfl⟩

variable {st : TimerStatus} {m : Mapping}

theorem Log.Fired.returns (h : l.Fired c st) : Allowed env l (.timerReturn c) :=
  ⟨h.callback,h.detached,by simp [h.released],by simp [h.pushed]⟩

/-- `nat4_timer_delete_ct`, once there is a reason to delete the entry. -/
theorem nat4TimerDeleteCt_keeps (hcb : l.callback = some c) (hd : l.detached = false)
    (hcl : l.closed = false) (hg : l.gone = false)
    (hwhy : l.released = true ∨ l.pushed = true ∨ l.status = some .pendingRef) :
    MayReturn env c (nat4TimerDeleteCt c) l := by
  refine .step ?_ fun _ _ => .pure ?_
  · show AllowedTimerDelete env l c.key
    rw [AllowedTimerDelete, hcb]
    exact ⟨rfl,hd,hcl,hg,hwhy⟩
  · have hl : record l (.timerDelete c.key) () = { l with gone := true } := by simp [record, hcb]
    rw [hl]
    exact ⟨hcb,hd,fun _ => .inr rfl,fun _ => rfl⟩

theorem nat4TimerAgeTo_keeps (h : l.Fired c st) {next : TimerStatus}
    (hu : nat4CtStatusUsable st = true) (hr : st ≠ .release) (hn : nat4CtStatusUsable next = true)
    (timeout : Nat) :
    MayReturn env c (nat4TimerAgeTo c st next timeout) l := by
  refine Keeps.step (.inl ⟨hu,hn,.inr ⟨h.toFresh,hr⟩⟩) fun ok _ => .pure ?_
  simp only [record, Log.onCasStatus]
  split
  · exact ⟨h.callback,by simp [h.detached],by simp [h.released, hr],by simp [h.pushed]⟩
  · exact h.returns

theorem nat4TimerAge_keeps (h : l.Fired c st) (hu : nat4CtStatusUsable st = true)
    (hr : st ≠ .release) :
    MayReturn env c (nat4TimerAge c st) l := by
  unfold nat4TimerAge
  split
  · exact nat4TimerAgeTo_keeps h (by decide) (by decide) (by decide) _
  · exact nat4TimerAgeTo_keeps h (by decide) (by decide) (by decide) _
  · split
    · exact .step trivial fun cs _ => .step trivial fun ss _ =>
        nat4TimerAgeTo_keeps h (by decide) (by decide) (by decide) _
    · exact nat4TimerAgeTo_keeps h (by decide) (by decide) (by decide) _
  · exact nat4TimerAgeTo_keeps h hu hr (by decide) _

section
variable (h : l.Releasing c m)
include h

theorem tryDecLoop_keeps (n old : Nat) :
    Keeps env (fun _ l' => l' = l ∨ l' = { l with gave := true }) (tryDecLoop m n old) l := by
  induction n generalizing old with
  | zero => exact .pure (.inl rfl)
  | succ n ih =>
    unfold tryDecLoop
    split
    · exact .pure (.inl rfl)
    split
    · exact .pure (.inl rfl)
    rename_i hact hone
    have hlt := nat4RefGet_lt old
    have hnew : nat4StateGet (nat4StateMake nat4StateActive (nat4RefGet old - 1)) ≠
        nat4StateClosed := by
      rw [nat4StateGet_make (by decide) (by omega)]
      decide
    refine Keeps.step ?_ fun prev _ => ?_
    · show AllowedCasStateRef l m old _
      rw [AllowedCasStateRef, h.callback]
      exact ⟨h,.inr ⟨not_not.mp hact,by omega,rfl⟩⟩
    · split
      · rename_i hprev
        refine .pure (.inr ?_)
        simp [record, Log.onCasStateRef, hprev, h.callback, hnew]
      · rename_i hprev
        have hl : record l (.casStateRef m old (nat4StateMake nat4StateActive (nat4RefGet old - 1)))
            prev = l := by simp [record, Log.onCasStateRef, hprev]
        rw [hl]
        exact ih prev

theorem nat4StateTryCloseLast_keeps :
    Keeps env (fun ok l' => l' = if ok then { l with closed := true } else l)
      (nat4StateTryCloseLast m) l := by
  refine .step ?_ fun prev _ => .pure ?_
  · show AllowedCasStateRef l m _ _
    rw [AllowedCasStateRef, h.callback]
    exact ⟨h,.inl ⟨rfl,rfl⟩⟩
  · have hnew : nat4StateGet (nat4StateMake nat4StateClosed 1) = nat4StateClosed :=
      nat4StateGet_make (by decide) (by decide)
    by_cases hprev : prev = nat4StateMake nat4StateActive 1
    · simp [record, Log.onCasStateRef, hprev, h.callback, hnew]
    · simp [record, Log.onCasStateRef, hprev]

theorem nat4StateTryDec_keeps (hmine : l.mine = none) :
    Keeps env (fun _ l' => l' = l ∨ l' = { l with gave := true }) (nat4StateTryDec m) l := by
  refine .step trivial fun old _ => ?_
  have hl : record l (.readStateRef m) old = l := by simp [record, hmine]
  rw [hl]
  exact tryDecLoop_keeps h 8 old

end

/-- `TIMER_RELEASE`: the mapping is closed, or the reference given back and the entry deleted. -/
theorem nat4TimerRelease_keeps (h : l.Fired c .release) :
    MayReturn env c (nat4TimerRelease c) l := by
  refine Keeps.step (.inr ⟨h.callback,h.released,h.pushed,h.gone,
    .inl ⟨rfl,rfl,h.found,h.detached,h.closed⟩⟩) fun ok _ => ?_
  cases ok with
  | false =>
    have hl : record l (.casStatus c .release .cleanStart) false = l := by
      simp [record, Log.onCasStatus]
    rw [hl]
    exact .pure h.returns
  | true =>
    have hl : record l (.casStatus c .release .cleanStart) true =
        { l with status := some .cleanStart, released := true, detached := false } := by
      simp [record, Log.onCasStatus, h.callback, h.detached]
    rw [hl, if_pos rfl]
    split
    · exact nat4TimerDeleteCt_keeps h.callback rfl h.closed h.gone (.inl rfl)
    · rename_i hst
      have hst' : c.val.isStatic = false := by simpa using hst
      refine Keeps.step ?_ fun r hans => ?_
      · refine ⟨h.ct,?_⟩
        intro c' hc'
        obtain rfl := Option.some.inj (h.callback.symm.trans hc')
        exact ⟨rfl,h.pushed⟩
      · obtain ⟨m,rfl,hgen⟩ := hans.2.2 c h.callback rfl hst' h.gone (.inl ⟨rfl,h.closed,h.gave⟩)
        have hrel : Log.Releasing { l with
            status := some .cleanStart, released := true, detached := false, found :=
              some m } c m :=
          ⟨h.callback,rfl,h.closed,h.gave,h.gone,hst',rfl,h.eg⟩
        dsimp only
        rw [if_neg (not_not.mpr hgen)]
        refine (nat4StateTryCloseLast_keeps hrel).call ?_
        rintro ok l' rfl
        cases ok with
        | true => exact .pure ⟨h.callback,rfl,fun _ => .inl rfl,by simp [h.pushed]⟩
        | false =>
          refine (nat4StateTryDec_keeps hrel h.mine).call ?_
          rintro _ l' (rfl | rfl) <;> exact nat4TimerDeleteCt_keeps h.callback rfl h.closed h.gone
            (.inl rfl)

theorem restart_keeps {old new : TimerStatus} {timeout : Nat} (hne : old ≠ new)
    (ha : AllowedCasStatus l c old new)
    (hok : l.callback = some c ∧ (old = .cleanStart ∨ old = .deleteIngress))
    (hl : Allowed env (record l (.casStatus c old new) true) (.timerReturn c)) :
    MayReturn env c (nat4TimerRestart c old new timeout) l := by
  unfold nat4TimerRestart
  rw [if_pos hne]
  refine .step ha fun ok hans => .pure ?_
  obtain rfl : ok = true := hans hok.1 hok.2
  exact hl

/-- `TIMER_DELETE_EGRESS`: an egress entry that leads to this port is deleted. -/
theorem nat4TimerDeleteEgress_keeps (h : l.Fired c .cleanStart) :
    MayReturn env c (nat4TimerDeleteEgress c) l := by
  have hnext : MayReturn env c
      (nat4TimerRestart c .cleanStart .deleteIngress deleteRetryInterval)
        { l with eg := none } := by
    refine restart_keeps (by decide) (.inr ⟨h.callback,h.released,h.pushed,h.gone,
      .inr (.inl ⟨rfl,rfl,h.status,rfl,h.found,h.detached⟩)⟩) ⟨h.callback,.inl rfl⟩ ?_
    simp only [record, Log.onCasStatus, h.callback, h.detached, h.released]
    exact ⟨rfl,rfl,by simp,by simp [h.pushed]⟩
  refine Keeps.step ?_ fun r _ => ?_
  · intro c' hc'
    obtain rfl := Option.some.inj (h.callback.symm.trans hc')
    rfl
  · cases r with
    | none =>
      have hl : record l (.egressLookup ⟨.egress,c.key.l4proto,c.val.clientPort,c.val.clientAddr⟩)
          none = { l with eg := none } := by
        simp [record, Log.onEgressLookup, h.callback]
      rw [hl]
      exact hnext
    | some e =>
      dsimp only
      split
      · rename_i hmatch
        have hl : record l (.egressLookup ⟨.egress,c.key.l4proto,c.val.clientPort,
            c.val.clientAddr⟩) (some e) = l := by
          simp [record, Log.onEgressLookup, h.callback, hmatch]
        rw [hl]
        refine Keeps.step trivial fun _ _ => ?_
        have hl' : record l (.egressDelete ⟨.egress,c.key.l4proto,c.val.clientPort,
            c.val.clientAddr⟩) () = { l with eg := none } := by
          simp [record, h.eg, ctClientKey]
        rw [hl']
        exact hnext
      · rename_i hmatch
        have hl : record l (.egressLookup ⟨.egress,c.key.l4proto,c.val.clientPort,
            c.val.clientAddr⟩) (some e) = { l with eg := none } := by
          simp only [record, Log.onEgressLookup, h.callback]
          rw [if_neg]
          simpa using fun h1 h2 => hmatch ⟨h1,h2⟩
        rw [hl]
        exact hnext

/-- `TIMER_DELETE_INGRESS`: the closed mapping is deleted. -/
theorem nat4TimerDeleteIngress_keeps (h : l.Fired c .deleteIngress) (hst : c.val.isStatic = false) :
    MayReturn env c (nat4TimerDeleteIngress c) l := by
  refine Keeps.step ?_ fun r hans => ?_
  · refine ⟨h.ct,?_⟩
    intro c' hc'
    obtain rfl := Option.some.inj (h.callback.symm.trans hc')
    exact ⟨rfl,h.pushed⟩
  · obtain ⟨m,rfl,hgen⟩ := hans.2.2 c h.callback rfl hst h.gone (.inr ⟨h.toFresh,h.status⟩)
    dsimp only
    rw [if_neg (not_not.mpr hgen)]
    refine Keeps.step ?_ fun _ _ => ?_
    · show AllowedDelete { l with found := some m } _
      rw [AllowedDelete, h.callback]
      exact ⟨rfl,⟨h.released,h.detached,h.pushed,h.gone⟩,h.status,rfl⟩
    · have hl : record (record l (.ingressLookup ⟨.ingress,c.key.l4proto,c.key.pairIp.dstPort,
          c.key.pairIp.dstAddr⟩) (some m)) (.ingressDelete ⟨.ingress,c.key.l4proto,
            c.key.pairIp.dstPort,c.key.pairIp.dstAddr⟩) () =
          { l with found := some m, detached := true } := by
        simp [record, h.callback]
      rw [hl]
      refine restart_keeps (by decide) (.inr ⟨h.callback,h.released,h.pushed,h.gone,
        .inr (.inr ⟨rfl,rfl,h.status,rfl⟩)⟩) ⟨h.callback,.inr rfl⟩ ?_
      simp only [record, Log.onCasStatus, h.callback, h.released]
      exact ⟨rfl,rfl,by simp,by simp [h.pushed]⟩

/-- `TIMER_PUSH_QUEUE`: the port goes back to the queue and the entry is deleted. -/
theorem nat4TimerPushQueue_keeps (h : l.Fired c .pushQueue) (hst : c.val.isStatic = false) :
    MayReturn env c (nat4TimerPushQueue c) l := by
  unfold nat4TimerPushQueue
  rw [if_neg (by simp [hst])]
  refine .step ?_ ?_
  · show AllowedPush l _ _
    rw [AllowedPush, h.callback]
    exact ⟨h.toFresh,h.status,rfl,rfl⟩
  · rintro r ⟨⟩
    refine nat4TimerDeleteCt_keeps h.callback h.detached h.closed h.gone (.inr (.inl ?_))
    simp [record, h.callback]

theorem nat4HandleTimerStep_keeps (reported : Bool) :
    MayReturn env c (nat4HandleTimerStep reported c) (.start (some c)) := by
  refine .step (start_readStatus env c .init).1 fun st hans => ?_
  have h := (start_readStatus env c st).2
  have hdyn := hans rfl
  split
  · exact nat4TimerDeleteCt_keeps h.callback h.detached h.closed h.gone (.inr (.inr rfl))
  · exact nat4TimerRelease_keeps h
  · exact nat4TimerDeleteEgress_keeps h
  · exact nat4TimerDeleteIngress_keeps h (hdyn (by decide))
  · exact nat4TimerPushQueue_keeps h (hdyn (by decide))
  · rename_i h1 h2 h3 h4 h5
    split
    · refine nat4TimerAge_keeps h ?_ h2
      revert h1 h2 h3 h4 h5
      cases st <;> decide
    · exact .pure h.returns

theorem nat4TimerCleanCallback_keeps (reported : Bool) :
    Keeps env (fun _ => Done) (nat4TimerCleanCallback reported c) (.start (some c)) := by
  refine (nat4HandleTimerStep_keeps reported).call ?_
  rintro ⟨action,timeout⟩ l h
  have hret : ∀ {l : Log}, Allowed env l (.timerReturn c) →
      Keeps env (fun _ => Done) (timerReturn c) l := by
    intro l h
    exact .step h fun _ _ => .pure start_bare.settled.1
  dsimp only
  split
  · exact .step trivial fun _ _ => hret h
  · exact hret h

end Landscape.Nat4
