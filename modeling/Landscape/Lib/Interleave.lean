import Landscape.Lib.Table

/-! Handlers that share a state through atomic accesses. A handler is a tree of accesses, run alone
or interleaved with others; an invariant of all interleavings is proved from one obligation per
access. -/
namespace Landscape.Interleave
open Function List Option
variable {Op : Type} {Res : Op → Type} {α β σ Λ Ev : Type}

/-- A handler: it either returns, or performs the access `o` and goes on with the answer. -/
inductive Prog (Op : Type) (Res : Op → Type) (α : Type) where
  | ret (a : α)
  | op (o : Op) (k : Res o → Prog Op Res α)

def Prog.bind : Prog Op Res α → (α → Prog Op Res β) → Prog Op Res β
  | .ret a, f => f a
  | .op o k, f => .op o fun r => (k r).bind f

instance : Monad (Prog Op Res) where
  pure := .ret
  bind := .bind

def Prog.perform (o : Op) : Prog Op Res (Res o) := .op o .ret

def Prog.run (exec : (o : Op) → σ → Res o × σ) : Prog Op Res α → σ → α × σ
  | .ret a, s => (a, s)
  | .op o k, s => (k (exec o s).1).run exec (exec o s).2

@[simp] theorem pure_eq_ret (a : α) : (pure a : Prog Op Res α) = .ret a := rfl

@[simp] theorem bind_ret (a : α) (f : α → Prog Op Res β) : (Prog.ret a >>= f) = f a := rfl

@[simp] theorem bind_op (o : Op) (k : Res o → Prog Op Res α) (f : α → Prog Op Res β) :
    (Prog.op o k >>= f) = .op o fun r => k r >>= f := rfl

@[simp] theorem perform_bind (o : Op) (f : Res o → Prog Op Res β) :
    (Prog.perform o >>= f) = .op o f := rfl

theorem run_bind (exec : (o : Op) → σ → Res o × σ) (p : Prog Op Res α)
    (f : α → Prog Op Res β) (s : σ) :
    (p >>= f).run exec s = (f (p.run exec s).1).run exec (p.run exec s).2 := by
  induction p generalizing s with
  | ret a => rfl
  | op o k ih => simpa [Prog.run] using ih (exec o s).1 (exec o s).2

structure Thread (Op : Type) (Res : Op → Type) (Λ : Type) where
  prog : Prog Op Res Unit
  log : Λ

/- The meaning of the accesses, how a handler's record grows, and which handlers
   an event of the environment sets off. -/
structure Sys (Op : Type) (Res : Op → Type) (σ Λ Ev : Type) where
  exec : (o : Op) → σ → Res o × σ
  record : Λ → (o : Op) → Res o → Λ
  launch : Ev → σ → Option (σ × Thread Op Res Λ)

structure Config (Op : Type) (Res : Op → Type) (σ Λ : Type) where
  shared : σ
  threads : Nat → Option (Thread Op Res Λ)

def logsOf (ths : Nat → Option (Thread Op Res Λ)) (t : Nat) : Option Λ := (ths t).map (·.log)

abbrev Config.logs (c : Config Op Res σ Λ) : Nat → Option Λ := logsOf c.threads

inductive Label (Ev : Type) where
  | start (t : Nat) (e : Ev)
  | act (t : Nat)
  | finish (t : Nat)

def Sys.step (S : Sys Op Res σ Λ Ev) (c : Config Op Res σ Λ) :
    Label Ev → Option (Config Op Res σ Λ)
  | .start t e =>
    match c.threads t, S.launch e c.shared with
    | none, some (s, th) => some ⟨s,update c.threads t (some th)⟩
    | _, _ => none
  | .act t =>
    match c.threads t with
    | some ⟨.op o k,l⟩ =>
      let r := S.exec o c.shared
      some ⟨r.2,update c.threads t (some ⟨k r.1,S.record l o r.1⟩)⟩
    | _ => none
  | .finish t =>
    match c.threads t with
    | some ⟨.ret _,_⟩ => some ⟨c.shared,update c.threads t none⟩
    | _ => none

/- A schedule restricts which events may start and which access a handler may perform next,
   looking at the shared state and at the records of all handlers. -/
structure Schedule (Op : Type) (σ Λ Ev : Type) where
  starts : σ → Ev → Prop
  acts : σ → (Nat → Option Λ) → Nat → Op → Prop

def Schedule.any (Op : Type) (σ Λ Ev : Type) : Schedule Op σ Λ Ev :=
  ⟨fun _ _ => True,fun _ _ _ _ => True⟩

def Schedule.Allows (R : Schedule Op σ Λ Ev) (c : Config Op Res σ Λ) : Label Ev → Prop
  | .start _ e => R.starts c.shared e
  | .act t => ∀ o k l, c.threads t = some ⟨.op o k,l⟩ → R.acts c.shared c.logs t o
  | .finish _ => True

/-- The configurations reached from `c₀` by steps that all keep to the schedule. -/
inductive Reach (S : Sys Op Res σ Λ Ev) (R : Schedule Op σ Λ Ev) (c₀ : Config Op Res σ Λ) :
    Config Op Res σ Λ → Prop where
  | refl : Reach S R c₀ c₀
  | next {c c' : Config Op Res σ Λ} {l : Label Ev} : Reach S R c₀ c → R.Allows c l →
      S.step c l = some c' → Reach S R c₀ c'

def Label.passes (okStart : σ → Ev → Bool) (okAct : σ → (Nat → Option Λ) → Nat → Op → Bool)
    (c : Config Op Res σ Λ) : Label Ev → Bool
  | .start _ e => okStart c.shared e
  | .act t =>
    match c.threads t with
    | some ⟨.op o _,_⟩ => okAct c.shared c.logs t o
    | _ => true
  | .finish _ => true

def Sys.stepsWithin (S : Sys Op Res σ Λ Ev) (okStart : σ → Ev → Bool)
    (okAct : σ → (Nat → Option Λ) → Nat → Op → Bool) (c : Config Op Res σ Λ) :
    List (Label Ev) → Option (Config Op Res σ Λ)
  | [] => some c
  | l :: ls =>
    if l.passes okStart okAct c then (S.step c l).bind fun c' => S.stepsWithin okStart okAct c' ls
    else none

variable {S : Sys Op Res σ Λ Ev} {R : Schedule Op σ Λ Ev} {okStart : σ → Ev → Bool}
  {okAct : σ → (Nat → Option Λ) → Nat → Op → Bool} {c₀ c c' : Config Op Res σ Λ}
  {ls : List (Label Ev)} {n : Nat} {s₀ : σ} {f : α → Prog Op Res β}

theorem stepsWithin_cons {l : Label Ev} (hrun : S.stepsWithin okStart okAct c (l :: ls) = some c') :
    ∃ d, l.passes okStart okAct c = true ∧ S.step c l = some d ∧
    S.stepsWithin okStart okAct d ls = some c' := by
  obtain ⟨hok,hrun⟩ := ite_none_right_eq_some.mp hrun
  obtain ⟨d,hd,hrun⟩ := bind_eq_some_iff.mp hrun
  exact ⟨d,hok,hd,hrun⟩

theorem Label.allows {l : Label Ev} (hs : ∀ s e, R.starts s e)
    (ha : ∀ t o, okAct c.shared c.logs t o = true → R.acts c.shared c.logs t o)
    (hok : l.passes okStart okAct c = true) : R.Allows c l := by
  cases l with
  | start t e => exact hs _ _
  | act t =>
    intro o k x hx
    simp only [Label.passes, hx] at hok
    exact ha _ _ hok
  | finish t => trivial

def Label.handler : Label Ev → Nat
  | .start t _ => t
  | .act t => t
  | .finish t => t

theorem step_other {l : Label Ev} {t : Nat} (hs : S.step c l = some c') (ht : t ≠ l.handler) :
    c'.threads t = c.threads t := by
  cases l with
  | start u e | act u | finish u =>
    simp only [Sys.step] at hs
    split at hs
    · cases hs
      exact update_of_ne ht _ _
    · cases hs

/-- The steps `ls` of the handlers below `n` pass the checks and end with nobody in flight, in a
shared state that passes `post`. -/
def Sys.quietRun (S : Sys Op Res σ Λ Ev) (okStart : σ → Ev → Bool)
    (okAct : σ → (Nat → Option Λ) → Nat → Op → Bool) (s₀ : σ) (n : Nat) (ls : List (Label Ev))
    (post : σ → Bool) : Bool :=
  ls.all (fun l => decide (l.handler < n)) &&
    (S.stepsWithin okStart okAct ⟨s₀,fun _ => none⟩ ls).any fun c =>
      (range n).all (fun t => (c.threads t).isNone) && post c.shared

theorem Schedule.any_acts (s : σ) (logs : Nat → Option Λ) (t : Nat) (o : Op)
    (_ : ∀ u, n ≤ u → logs u = none) (_ : true = true) : (Schedule.any Op σ Λ Ev).acts s logs t o :=
  trivial

section
variable (ha : ∀ s logs t o, (∀ u, n ≤ u → logs u = none) → okAct s logs t o = true →
  R.acts s logs t o)
  (hs : ∀ s e, R.starts s e)
include ha hs

theorem stepsWithin_below (h : Reach S R c₀ c) (hc : ∀ u, n ≤ u → c.threads u = none)
    (hls : ∀ l ∈ ls, l.handler < n) (hrun : S.stepsWithin okStart okAct c ls = some c') :
    Reach S R c₀ c' ∧ ∀ u, n ≤ u → c'.threads u = none := by
  induction ls generalizing c with
  | nil => exact some.inj hrun ▸ ⟨h,hc⟩
  | cons l ls ih =>
    obtain ⟨d,hok,hd,hrun⟩ := stepsWithin_cons hrun
    have hallows : R.Allows c l :=
      Label.allows hs (fun t o => ha _ _ t o fun u hu => by simp [logsOf, hc u hu]) hok
    refine ih (h.next hallows hd) ?_ (fun l' hl' => hls l' (mem_cons_of_mem _ hl')) hrun
    intro u hu
    have hne : u ≠ l.handler := by
      have := hls l mem_cons_self
      omega
    rw [step_other hd hne, hc u hu]

variable (S) (ls) (n) (s₀)

/-- A configuration is found by evaluation: the steps `ls` pass the checks and lead to one with
`Q`. -/
theorem reach_of_check (Q : Config Op Res σ Λ → Prop) [DecidablePred Q]
    (hls : ∀ l ∈ ls, l.handler < n)
    (h : (S.stepsWithin (fun _ _ => true) okAct ⟨s₀,fun _ => none⟩ ls).any
      (fun c => decide (Q c)) = true) :
    ∃ c, Reach S R ⟨s₀,fun _ => none⟩ c ∧ (∀ t, n ≤ t → c.threads t = none) ∧ Q c := by
  obtain ⟨c,hc,hpost⟩ := (any_eq_true _ _).mp h
  obtain ⟨hreach,hbelow⟩ := stepsWithin_below ha hs .refl (fun _ _ => rfl) hls hc
  exact ⟨c,hreach,hbelow,of_decide_eq_true hpost⟩

theorem reach_of_quietRun (Q : σ → Prop) [DecidablePred Q]
    (h : S.quietRun (fun _ _ => true) okAct s₀ n ls (fun s => decide (Q s)) = true) :
    ∃ c, Reach S R ⟨s₀,fun _ => none⟩ c ∧ (∀ t, c.threads t = none) ∧ Q c.shared := by
  simp only [Sys.quietRun, Bool.and_eq_true, List.all_eq_true, decide_eq_true_eq] at h
  obtain ⟨c,hreach,hbelow,hpost⟩ := reach_of_check S ls n s₀ ha hs
    (fun c => (range n).all (fun t => (c.threads t).isNone) = true ∧ Q c.shared) h.1
    (by simpa only [Bool.decide_and, Bool.decide_eq_true] using h.2)
  refine ⟨c,hreach,fun t => ?_,hpost.2⟩
  by_cases ht : t < n
  · exact isNone_iff_eq_none.mp (List.all_eq_true.mp hpost.1 t (List.mem_range.mpr ht))
  · exact hbelow t (by omega)

end

theorem Reach.any (h : Reach S R c₀ c) : Reach S (.any Op σ Λ Ev) c₀ c := by
  induction h with
  | refl => exact .refl
  | @next d d' l _ _ hd ih => exact ih.next (by cases l <;> simp [Schedule.Allows, Schedule.any]) hd

theorem Reach.shared (Inv : σ → Prop)
    (hstart : ∀ e s s' th, Inv s → S.launch e s = some (s', th) → Inv s')
    (hact : ∀ s logs t o, Inv s → R.acts s logs t o → Inv (S.exec o s).2) (h₀ : Inv c₀.shared)
    (h : Reach S R c₀ c) : Inv c.shared := by
  induction h with
  | refl => exact h₀
  | @next d d' l _ ha hs ih =>
    cases l with
    | start t e =>
      simp only [Sys.step] at hs
      split at hs
      · rename_i s th _ hl
        cases hs
        exact hstart e d.shared s th ih hl
      · cases hs
    | act t =>
      simp only [Sys.step] at hs
      split at hs
      · rename_i o k x hx
        cases hs
        exact hact _ _ t o ih (ha o k x hx)
      · cases hs
    | finish t =>
      simp only [Sys.step] at hs
      split at hs
      · cases hs
        exact ih
      · cases hs

/- What a handler may do next given its record, and which answers it has to be ready for. -/
structure Contract (Op : Type) (Res : Op → Type) (Λ : Type) where
  Allowed : Λ → Op → Prop
  Answers : Λ → (o : Op) → Res o → Prop

section Outline
variable (S : Sys Op Res σ Λ Ev) (C : Contract Op Res Λ)

/-- From record `l` on, `p` performs only allowed accesses and returns with `Q`. -/
def Meets (Q : α → Λ → Prop) : Prog Op Res α → Λ → Prop
  | .ret a, l => Q a l
  | .op o k, l => C.Allowed l o ∧ ∀ r, C.Answers l o r → Meets Q (k r) (S.record l o r)

variable {S C}

variable {p : Prog Op Res α} {l : Λ} {Q : β → Λ → Prop} {Fin : Λ → Prop} {R : Schedule Op σ Λ Ev}
  {Inv : σ → (Nat → Option Λ) → Prop} {c : Config Op Res σ Λ}

theorem Meets.mono {Q Q' : α → Λ → Prop} (hQ : ∀ a l, Q a l → Q' a l) (h : Meets S C Q p l) :
    Meets S C Q' p l := by
  induction p generalizing l with
  | ret a => exact hQ a l h
  | op o k ih => exact ⟨h.1,fun r hr => ih r (h.2 r hr)⟩

theorem Meets.bind (h : Meets S C (fun a l => Meets S C Q (f a) l) p l) :
    Meets S C Q (p >>= f) l := by
  induction p generalizing l with
  | ret a => exact h
  | op o k ih => exact ⟨h.1,fun r hr => ih r (h.2 r hr)⟩

theorem Meets.pure {Q : α → Λ → Prop} {a : α} (h : Q a l) : Meets S C Q (Pure.pure a) l := h

/-- An access: it has to be allowed, and the rest has to cope with every answer. -/
theorem Meets.step {o : Op} {f : Res o → Prog Op Res β} (ha : C.Allowed l o)
    (h : ∀ r, C.Answers l o r → Meets S C Q (f r) (S.record l o r)) :
    Meets S C Q (Prog.perform o >>= f) l := ⟨ha,h⟩

/-- A call: what follows relies on the callee's postcondition. -/
theorem Meets.call {P : α → Λ → Prop} (hp : Meets S C P p l)
    (h : ∀ a l', P a l' → Meets S C Q (f a) l') : Meets S C Q (p >>= f) l :=
  (hp.mono h).bind

variable (S C)

/- One obligation for each kind of step: starting a handler, an allowed access,
   and the return of a handler whose record meets `Fin`. -/
structure Outline (R : Schedule Op σ Λ Ev) (Fin : Λ → Prop)
    (Inv : σ → (Nat → Option Λ) → Prop) : Prop where
  start : ∀ s logs t e s' th, Inv s logs → logs t = none → R.starts s e →
    S.launch e s = some (s', th) →
    Inv s' (update logs t (some th.log)) ∧ Meets S C (fun _ l => Fin l) th.prog th.log
  act : ∀ s logs t l o, Inv s logs → logs t = some l → R.acts s logs t o → C.Allowed l o →
    C.Answers l o (S.exec o s).1 ∧
      Inv (S.exec o s).2 (update logs t (some (S.record l o (S.exec o s).1)))
  finish : ∀ s logs t l, Inv s logs → logs t = some l → Fin l → Inv s (update logs t none)

variable {S C}

theorem logsOf_update (ths : Nat → Option (Thread Op Res Λ)) (t : Nat)
    (th : Option (Thread Op Res Λ)) :
    logsOf (update ths t th) = update (logsOf ths) t (th.map (·.log)) := by
  funext u
  by_cases hu : u = t
  · subst hu; simp [logsOf]
  · simp [logsOf, hu]

def Kept (S : Sys Op Res σ Λ Ev) (C : Contract Op Res Λ) (Fin : Λ → Prop)
    (ths : Nat → Option (Thread Op Res Λ)) : Prop :=
  ∀ t th, ths t = some th → Meets S C (fun _ l => Fin l) th.prog th.log

theorem kept_update {ths : Nat → Option (Thread Op Res Λ)} (t : Nat) {th : Option (Thread Op Res Λ)}
    (h : Kept S C Fin ths) (hth : ∀ x, th = some x → Meets S C (fun _ l => Fin l) x.prog x.log) :
    Kept S C Fin (update ths t th) := by
  intro u x hx
  rcases Table.update_eq_some hx with ⟨-,hx⟩ | ⟨-,hx⟩
  · exact hth x hx
  · exact h u x hx

theorem Outline.step (H : Outline S C R Fin Inv) {c' : Config Op Res σ Λ} {lb : Label Ev}
    (hi : Inv c.shared c.logs) (hk : Kept S C Fin c.threads) (ha : R.Allows c lb)
    (hs : S.step c lb = some c') : Inv c'.shared c'.logs ∧ Kept S C Fin c'.threads := by
  obtain ⟨s,ths⟩ := c
  cases lb with
  | start t e =>
    simp only [Sys.step] at hs
    split at hs
    · rename_i s' th ht hl
      cases hs
      obtain ⟨h1,h2⟩ := H.start s _ t e s' th hi (by simp [logsOf, ht]) ha hl
      refine ⟨by simpa [Config.logs, logsOf_update] using h1,kept_update t hk ?_⟩
      rintro x ⟨⟩
      exact h2
    · cases hs
  | act t =>
    simp only [Sys.step] at hs
    split at hs
    · rename_i o k l ht
      cases hs
      have hm := hk t _ ht
      obtain ⟨h1,h2⟩ := H.act s _ t l o hi (by simp [logsOf, ht]) (ha o k l ht) hm.1
      refine ⟨by simpa [Config.logs, logsOf_update] using h2,kept_update t hk ?_⟩
      rintro x ⟨⟩
      exact hm.2 _ h1
    · cases hs
  | finish t =>
    simp only [Sys.step] at hs
    split at hs
    · rename_i a l ht
      cases hs
      have h1 := H.finish s _ t l hi (by simp [logsOf, ht]) (hk t _ ht)
      exact ⟨by simpa [Config.logs, logsOf_update] using h1,kept_update t hk (by simp)⟩
    · cases hs

/-- An outlined invariant that holds before any handler has started holds in every configuration the
schedule lets the system reach, and the handlers in flight keep to the contract. -/
theorem Outline.reach_kept (H : Outline S C R Fin Inv) (h₀ : Inv s₀ fun _ => none)
    (h : Reach S R ⟨s₀,fun _ => none⟩ c) : Inv c.shared c.logs ∧ Kept S C Fin c.threads := by
  induction h with
  | refl => exact ⟨h₀,by intro t th ht; simp at ht⟩
  | next _ ha hs ih => exact H.step ih.1 ih.2 ha hs

theorem Outline.reach (H : Outline S C R Fin Inv) (h₀ : Inv s₀ fun _ => none)
    (h : Reach S R ⟨s₀,fun _ => none⟩ c) : Inv c.shared c.logs := (H.reach_kept h₀ h).1

end Outline

section Owed
variable {good good' : Prop} {Owes : Λ → Prop} {logs : Nat → Option Λ} {t : Nat} {l l' : Λ}

/-- A fact holds, or one of the handlers in flight still has to establish it. -/
def Owed (good : Prop) (Owes : Λ → Prop) (logs : Nat → Option Λ) : Prop :=
  good ∨ ∃ t l, logs t = some l ∧ Owes l

section
variable (h : Owed good Owes logs)
include h

/-- An access may break the fact only by taking on the debt, and may drop its own debt only by
establishing the fact. -/
theorem Owed.act (ht : logs t = some l) (hgood : good → good' ∨ Owes l')
    (howes : Owes l → good' ∨ Owes l') : Owed good' Owes (update logs t (some l')) := by
  have hself : good' ∨ Owes l' → Owed good' Owes (update logs t (some l')) := by
    rintro (h | h)
    · exact .inl h
    · exact .inr ⟨t,l',update_self _ _ _,h⟩
  rcases h with h | ⟨u,x,hx,ho⟩
  · exact hself (hgood h)
  · by_cases hu : u = t
    · subst hu
      cases ht.symm.trans hx
      exact hself (howes ho)
    · exact .inr ⟨u,x,by simpa [hu] using hx,ho⟩

theorem Owed.start (ht : logs t = none) (l : Λ) (hgood : good → good' ∨ Owes l) :
    Owed good' Owes (update logs t (some l)) := by
  rcases h with h | ⟨u,x,hx,ho⟩
  · rcases hgood h with h | h
    · exact .inl h
    · exact .inr ⟨t,l,update_self _ _ _,h⟩
  · have hu : u ≠ t := by
      rintro rfl
      simp [ht] at hx
    exact .inr ⟨u,x,by simpa [hu] using hx,ho⟩

theorem Owed.finish (ht : logs t = some l) (hno : ¬Owes l) :
    Owed good Owes (update logs t none) := by
  rcases h with h | ⟨u,x,hx,ho⟩
  · exact .inl h
  · have hu : u ≠ t := by
      rintro rfl
      cases ht.symm.trans hx
      exact hno ho
    exact .inr ⟨u,x,by simpa [hu] using hx,ho⟩

theorem Owed.mono {Owes' : Λ → Prop} (hgood : good → good') (howes : ∀ l, Owes l → Owes' l) :
    Owed good' Owes' logs := by
  rcases h with h | ⟨u,x,hx,ho⟩
  · exact .inl (hgood h)
  · exact .inr ⟨u,x,hx,howes x ho⟩

theorem Owed.quiet (hno : ∀ t, logs t = none) : good := by
  rcases h with h | ⟨u,x,hx,-⟩
  · exact h
  · simp [hno u] at hx

end

end Owed

end Landscape.Interleave
