import Landscape.Lib.Interleave

/-! A handler that nobody disturbs does what it does alone. -/
namespace Landscape.Interleave
open Function
variable {Op : Type} {Res : Op → Type} {α β σ τ Λ Ev : Type}
  {exec : (o : Op) → σ → Res o × σ} {view : σ → τ}

/-- What the access answers, and what it makes of the part `view` of the state, depends on that
part only. -/
def Sees (exec : (o : Op) → σ → Res o × σ) (view : σ → τ) (o : Op) : Prop :=
  ∀ s s', view s = view s' → (exec o s).1 = (exec o s').1 ∧ view (exec o s).2 = view (exec o s').2

def Prog.Within (exec : (o : Op) → σ → Res o × σ) (view : σ → τ) : Prog Op Res α → Prop
  | .ret _ => True
  | .op o k => Sees exec view o ∧ ∀ r, (k r).Within exec view

theorem Prog.Within.bind {p : Prog Op Res α} {f : α → Prog Op Res β} (hp : p.Within exec view)
    (hf : ∀ a, (f a).Within exec view) : (p >>= f).Within exec view := by
  induction p with
  | ret a => exact hf a
  | op o k ih => exact ⟨hp.1,fun r => ih r (hp.2 r)⟩

theorem Prog.Within.run {p : Prog Op Res α} (hp : p.Within exec view) {s s' : σ}
    (h : view s = view s') : view (p.run exec s).2 = view (p.run exec s').2 := by
  induction p generalizing s s' with
  | ret a => exact h
  | op o k ih =>
    obtain ⟨hr,hv⟩ := hp.1 s s' h
    simp only [Prog.run, hr]
    exact ih _ (hp.2 _) hv

/-- From `c` on the handler `t` goes on, and the steps of the others leave the part `view` of the
shared state as it is. -/
inductive Undisturbed (S : Sys Op Res σ Λ Ev) (R : Schedule Op σ Λ Ev) (view : σ → τ) (t : Nat)
    (c : Config Op Res σ Λ) : Config Op Res σ Λ → Prop where
  | refl : Undisturbed S R view t c c
  | own {d d' : Config Op Res σ Λ} : Undisturbed S R view t c d → R.Allows d (.act t) →
      S.step d (.act t) = some d' → Undisturbed S R view t c d'
  | other {d d' : Config Op Res σ Λ} {l : Label Ev} : Undisturbed S R view t c d → R.Allows d l →
      S.step d l = some d' → t ≠ l.handler → view d'.shared = view d.shared →
      Undisturbed S R view t c d'

variable {S : Sys Op Res σ Λ Ev} {R : Schedule Op σ Λ Ev} {t : Nat} {c₀ c d : Config Op Res σ Λ}
  {p : Prog Op Res Unit} {l : Λ}

theorem Undisturbed.reach (h : Undisturbed S R view t c d) (hc : Reach S R c₀ c) :
    Reach S R c₀ d := by
  induction h with
  | refl => exact hc
  | own _ ha hs ih | other _ ha hs _ _ ih => exact ih.next ha hs

/- What is left of the handler comes to the same as the whole handler from `c` on. -/
theorem Undisturbed.rest (h : Undisturbed S R view t c d)
    (ht : c.threads t = some ⟨p,l⟩) (hp : p.Within S.exec view) :
    ∃ q x, d.threads t = some ⟨q,x⟩ ∧ q.Within S.exec view ∧
      view (q.run S.exec d.shared).2 = view (p.run S.exec c.shared).2 := by
  induction h with
  | refl => exact ⟨p,l,ht,hp,rfl⟩
  | @own d d' _ _ hs ih =>
    obtain ⟨q,x,hq,hw,hv⟩ := ih
    simp only [Sys.step, hq] at hs
    cases q with
    | ret a => cases hs
    | op o k =>
      cases hs
      exact ⟨_,_,Function.update_self _ _ _,hw.2 _,hv⟩
  | @other d d' b _ _ hs hne hsame ih =>
    obtain ⟨q,x,hq,hw,hv⟩ := ih
    exact ⟨q,x,(step_other hs hne).trans hq,hw,(hw.run hsame).trans hv⟩

theorem Undisturbed.done (h : Undisturbed S R view t c d) {x : Λ} {a : Unit}
    (ht : c.threads t = some ⟨p,l⟩) (hp : p.Within S.exec view)
    (hd : d.threads t = some ⟨.ret a,x⟩) :
    view d.shared = view (p.run S.exec c.shared).2 := by
  obtain ⟨q,y,hq,-,hv⟩ := h.rest ht hp
  cases hd.symm.trans hq
  exact hv

end Landscape.Interleave
