import Mathlib.Logic.Relation

/-! Machines whose events happen one after another. -/
namespace Landscape.Run
variable {σ Ev : Type} {step : σ → Ev → Option σ} {P : σ → Ev → Prop} {s s' : σ}
  {ok : σ → Ev → Bool} {es : List Ev}

/-- What is reached by events that all meet `P`; an event that cannot happen in a state has no
result there. -/
def Runs (step : σ → Ev → Option σ) (P : σ → Ev → Prop) : σ → σ → Prop :=
  Relation.ReflTransGen fun s s' => ∃ e, P s e ∧ step s e = some s'

theorem Runs.invariant (Inv : σ → Prop) (hr : Runs step P s s')
    (hstep : ∀ s e s', Inv s → P s e → step s e = some s' → Inv s') (h : Inv s) : Inv s' := by
  induction hr with
  | refl => exact h
  | tail _ hlast ih =>
    obtain ⟨e,hp,hs⟩ := hlast
    exact hstep _ e _ ih hp hs

theorem Runs.mono {Q : σ → Ev → Prop} (h : ∀ s e, P s e → Q s e) (hr : Runs step P s s') :
    Runs step Q s s' := by
  refine Relation.ReflTransGen.mono ?_ _ _ hr
  rintro a b ⟨e,hp,hs⟩
  exact ⟨e,h a e hp,hs⟩

def stepsWithin (step : σ → Ev → Option σ) (ok : σ → Ev → Bool) (s : σ) : List Ev → Option σ
  | [] => some s
  | e :: es => if ok s e then (step s e).bind fun s' => stepsWithin step ok s' es else none

theorem runs_stepsWithin (hok : ∀ s e, ok s e = true → P s e)
    (h : stepsWithin step ok s es = some s') : Runs step P s s' := by
  induction es generalizing s with
  | nil =>
    simp only [stepsWithin, Option.some.injEq] at h
    exact h ▸ .refl
  | cons e es ih =>
    simp only [stepsWithin] at h
    split at h
    · rename_i he
      obtain ⟨d,hd,h⟩ := Option.bind_eq_some_iff.mp h
      exact .head ⟨e,hok s e he,hd⟩ (ih h)
    · cases h

section
variable (step) (s) (es : List Ev) (Q : σ → Prop) [DecidablePred Q]

/-- A run is found by evaluation: the events `es` can happen and lead to a state with `Q`. -/
theorem runs_of_check (hok : ∀ s e, ok s e = true → P s e)
    (h : (stepsWithin step ok s es).any (fun s' => decide (Q s')) = true) :
    ∃ s', Runs step P s s' ∧ Q s' := by
  obtain ⟨s',hs,hpost⟩ := (Option.any_eq_true _ _).mp h
  exact ⟨s',runs_stepsWithin hok hs,of_decide_eq_true hpost⟩

theorem runs_of_decide (P : σ → Ev → Prop) [∀ s e, Decidable (P s e)]
    (h : (stepsWithin step (fun s e => decide (P s e)) s es).any (fun s' => decide (Q s')) = true) :
    ∃ s', Runs step P s s' ∧ Q s' :=
  runs_of_check step s es Q (fun _ _ => of_decide_eq_true) h

theorem runs_of_steps
    (h : (stepsWithin step (fun _ _ => true) s es).any (fun s' => decide (Q s')) = true) :
    ∃ s', Runs step (fun _ _ => True) s s' ∧ Q s' :=
  runs_of_check step s es Q (fun _ _ _ => trivial) h

end

theorem runs_and {Q R : σ → Prop} (hrun : ∃ s', Runs step P s s' ∧ Q s')
    (h : ∀ s', Runs step P s s' → Q s' → R s') : ∃ s', Runs step P s s' ∧ Q s' ∧ R s' :=
  hrun.imp fun s' hs => ⟨hs.1,hs.2,h s' hs.1 hs.2⟩

end Landscape.Run
