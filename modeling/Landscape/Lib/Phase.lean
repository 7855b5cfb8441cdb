import Landscape.Lib.Run
import Landscape.Lib.Slice

/-! A phase of a protocol: it handles one event after another and sends, until it returns a result,
gives up with an error or reads out of bounds. -/
namespace Landscape.Phase
open Run Slice
variable {σ Ev Out ρ ε : Type}

inductive Next (ρ ε : Type) where
  | goOn
  | finish (r : ρ)
  | fail (e : ε)

inductive Outcome (ρ ε : Type) where
  | running
  | returned (r : ρ)
  | failed (e : ε)
  | faulted
  deriving DecidableEq

def Next.outcome : Next ρ ε → Outcome ρ ε
  | .goOn => .running
  | .finish r => .returned r
  | .fail e => .failed e

inductive Io (Ev Out : Type) where
  | got (e : Ev)
  | sent (o : Out)
  deriving DecidableEq

structure Reaction (σ Out ρ ε : Type) where
  state : σ
  sent : List Out
  next : Next ρ ε

abbrev Handler (σ Ev Out ρ ε : Type) := σ → Ev → Read (Reaction σ Out ρ ε)

structure Progress (σ Ev Out ρ ε : Type) where
  state : σ
  outcome : Outcome ρ ε
  log : List (Io Ev Out)

def written (log : List (Io Ev Out)) (e : Ev) (sent : List Out) : List (Io Ev Out) :=
  sent.reverse.map .sent ++ .got e :: log

def begin (s : σ) : Read (Reaction σ Out ρ ε) → Progress σ Ev Out ρ ε
  | .ok r => ⟨r.state,r.next.outcome,r.sent.reverse.map .sent⟩
  | .error _ => ⟨s,.faulted,[]⟩

def step (handle : Handler σ Ev Out ρ ε) (p : Progress σ Ev Out ρ ε) (e : Ev) :
    Option (Progress σ Ev Out ρ ε) :=
  match p.outcome, handle p.state e with
  | .running, .ok r => some ⟨r.state,r.next.outcome,written p.log e r.sent⟩
  | .running, .error _ => some ⟨p.state,.faulted,written p.log e []⟩
  | _, _ => none

variable {handle : Handler σ Ev Out ρ ε} {p p' : Progress σ Ev Out ρ ε} {e : Ev}

theorem step_cases (h : step handle p e = some p') : p.outcome = .running ∧
    ((∃ r, handle p.state e = .ok r ∧ p' = ⟨r.state,r.next.outcome,written p.log e r.sent⟩) ∨
      ¬Safe (handle p.state e) ∧ p'.outcome = .faulted) := by
  unfold step at h
  split at h
  · rename_i hrun hr
    cases h
    exact ⟨hrun,.inl ⟨_,hr,rfl⟩⟩
  · rename_i hrun hr
    cases h
    refine ⟨hrun,.inr ⟨?_,rfl⟩⟩
    rintro ⟨r,hok⟩
    rw [hr] at hok
    cases hok
  · cases h

theorem step_faulted_iff (h : step handle p e = some p') :
    p'.outcome = .faulted ↔ ¬Safe (handle p.state e) := by
  obtain ⟨-,⟨r,hr,rfl⟩ | ⟨hbad,hfault⟩⟩ := step_cases h
  · refine ⟨fun hfault => ?_,fun hbad => absurd ⟨r,hr⟩ hbad⟩
    revert hfault
    cases r.next <;> simp [Next.outcome]
  · exact ⟨fun _ => hbad,fun _ => hfault⟩

variable {C : Progress σ Ev Out ρ ε → Ev → Prop}

section
variable (Inv : σ → List (Io Ev Out) → Prop) (hrun : Runs (step handle) C p p')
  (hkeep : ∀ p e r, Inv p.state p.log → C p e → handle p.state e = .ok r → r.next = .goOn →
    Inv r.state (written p.log e r.sent))
  (hstart : p.outcome = .running → Inv p.state p.log)
include Inv hrun hkeep hstart

theorem running_of_runs : p'.outcome = .running → Inv p'.state p'.log := by
  refine hrun.invariant (fun p => p.outcome = .running → Inv p.state p.log) ?_ hstart
  intro a e b hinv hc hstep hlive
  obtain ⟨ha,⟨r,hr,rfl⟩ | ⟨-,hfault⟩⟩ := step_cases hstep
  · refine hkeep a e r (hinv ha) hc hr ?_
    revert hlive
    cases r.next <;> simp [Next.outcome]
  · rw [hfault] at hlive
    cases hlive

theorem returned_of_runs (Post : ρ → σ → List (Io Ev Out) → Prop)
    (hpost : ∀ p e r res, Inv p.state p.log → C p e → handle p.state e = .ok r →
      r.next = .finish res →
      Post res r.state (written p.log e r.sent))
    (hnew : ∀ res, p.outcome ≠ .returned res) {res : ρ} (hres : p'.outcome = .returned res) :
    Post res p'.state p'.log := by
  obtain rfl | ⟨a,hbefore,e,hc,hstep⟩ := Relation.ReflTransGen.cases_tail hrun
  · exact absurd hres (hnew res)
  · obtain ⟨ha,⟨r,hr,rfl⟩ | ⟨-,hfault⟩⟩ := step_cases hstep
    · refine hpost a e r res (running_of_runs Inv hbefore hkeep hstart ha) hc hr ?_
      revert hres
      cases r.next <;> simp [Next.outcome]
    · rw [hfault] at hres
      cases hres

theorem not_faulted_of_runs (hsafe : ∀ p e, Inv p.state p.log → C p e → Safe (handle p.state e))
    (hnew : p.outcome ≠ .faulted) : p'.outcome ≠ .faulted := by
  intro hfault
  obtain rfl | ⟨a,hbefore,e,hc,hstep⟩ := Relation.ReflTransGen.cases_tail hrun
  · exact hnew hfault
  · obtain ⟨ha,⟨r,hr,rfl⟩ | ⟨hbad,-⟩⟩ := step_cases hstep
    · revert hfault
      cases r.next <;> simp [Next.outcome]
    · exact hbad (hsafe a e (running_of_runs Inv hbefore hkeep hstart ha) hc)

end

end Landscape.Phase
