import Landscape.Lib.Run

/-! Components that are driven by events and by one timer. Time passes between the events, and
never past the moment the timer is due. -/
namespace Landscape.Timed
variable {σ Ev : Type}

/-- How a component handles an event at a given time: its new state and, if it sets the timer
anew, how long from now. `fires` tells the expiry of the timer from the other events. -/
structure Driven (σ Ev : Type) where
  fires : Ev → Bool
  handle : Nat → σ → Ev → σ × Option Nat

structure Clocked (σ : Type) where
  now : Nat
  deadline : Nat
  state : σ

inductive Moment (Ev : Type) where
  | pass (d : Nat)
  | event (e : Ev)

def Driven.step (D : Driven σ Ev) (c : Clocked σ) : Moment Ev → Option (Clocked σ)
  | .pass d => if c.now + d ≤ c.deadline then some { c with now := c.now + d } else none
  | .event e =>
    if D.fires e = true ∧ c.now ≠ c.deadline then none
    else
      let r := D.handle c.now c.state e
      some ⟨c.now,r.2.elim c.deadline (c.now + ·),r.1⟩

variable {D : Driven σ Ev} {c c' : Clocked σ}

theorem step_pass {d : Nat} (h : D.step c (.pass d) = some c') :
    c.now + d ≤ c.deadline ∧ c' = { c with now := c.now + d } := by
  simp only [Driven.step] at h
  split at h
  · rename_i hle
    cases h
    exact ⟨hle,rfl⟩
  · cases h

theorem step_event {e : Ev} (h : D.step c (.event e) = some c') :
    (D.fires e = true → c.now = c.deadline) ∧
      c' = ⟨c.now,(D.handle c.now c.state e).2.elim c.deadline (c.now + ·),
        (D.handle c.now c.state e).1⟩ := by
  simp only [Driven.step] at h
  split at h
  · cases h
  rename_i hdue
  cases h
  refine ⟨?_,rfl⟩
  intro hf
  by_cases hnow : c.now = c.deadline
  · exact hnow
  · exact absurd ⟨hf,hnow⟩ hdue

theorem step_now_le (h : c.now ≤ c.deadline) {m : Moment Ev} (hs : D.step c m = some c') :
    c'.now ≤ c'.deadline := by
  cases m with
  | pass d =>
    obtain ⟨hle,rfl⟩ := step_pass hs
    exact hle
  | event e =>
    obtain ⟨-,rfl⟩ := step_event hs
    cases (D.handle c.now c.state e).2 with
    | none => exact h
    | some wait => exact Nat.le_add_right _ _

end Landscape.Timed
