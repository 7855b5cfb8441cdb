import Landscape.Lib.Run
import Mathlib.Data.Fintype.Basic

/-! The registry of DDNS tasks at the key of one job. Every rcu is a load, the closure, and a
compare-and-swap on the address of the map that runs the closure again on what it met. -/
namespace Landscape.Ddns
open Run Function Option

/-- A map by its address, with the address of the pending flag in the job's entry. -/
structure Version where
  ptr : Nat
  entry : Option Nat
  deriving DecidableEq

inductive Rcu where
  | loaded (current : Version)
  | computed (current : Version)
  deriving DecidableEq

inductive Thread where
  | idle
  | startOrMark (rcu : Rcu)
  | updatePhase (other : Bool) (rcu : Rcu)
  | round
  | finishOrContinue (keepGoing : Bool) (rcu : Rcu)
  deriving DecidableEq

inductive Outcome where
  | started
  | markedPending
  | continued
  | stopped
  deriving DecidableEq

structure Registry (ι : Type) where
  entries : Version
  pending : Nat → Bool
  fresh : Nat
  threads : ι → Thread
  trace : List Outcome

def Registry.default {ι : Type} : Registry ι := ⟨⟨0,none⟩,fun _ => false,1,fun _ => .idle,[]⟩

/-- A thread without a call makes one, or any thread takes its next access. Operations of other jobs
replace the map as `update_phase` does. -/
inductive Event (ι : Type) where
  | startOrMark (t : ι)
  | updatePhase (t : ι) (other : Bool)
  | run (t : ι)

variable {ι : Type} [DecidableEq ι] {s s' : Registry ι} {t u : ι} {r : Rcu}

@[grind] def Registry.goto (s : Registry ι) (t : ι) (th : Thread) : Registry ι :=
  { s with threads := update s.threads t th }

@[grind] def Registry.storePending (s : Registry ι) (v : Version) (b : Bool) : Registry ι :=
  { s with pending := fun flag => if v.entry = some flag then b else s.pending flag }

@[grind] def Registry.replace (s : Registry ι) (entry : Option Nat) : Registry ι :=
  { s with entries := ⟨s.fresh,entry⟩, fresh := s.fresh + 1 }

@[grind] def Registry.log (s : Registry ι) (o : Outcome) : Registry ι :=
  { s with trace := o :: s.trace }

def Registry.access (s : Registry ι) (t : ι) : Thread → Option (Registry ι)
  | .idle => none
  | .startOrMark (.loaded v) => some ((s.storePending v true).goto t (.startOrMark (.computed v)))
  | .startOrMark (.computed v) =>
    if v.ptr ≠ s.entries.ptr then some (s.goto t (.startOrMark (.loaded s.entries)))
    else if v.entry.isSome then some ((s.goto t .idle).log .markedPending)
    else
      let flag := s.fresh
      some (({ s with pending := update s.pending flag false, fresh := flag + 1 }.replace
        (some flag)).goto t
        .round |>.log .started)
  | .updatePhase other (.loaded v) => some (s.goto t (.updatePhase other (.computed v)))
  | .updatePhase other (.computed v) =>
    if v.ptr ≠ s.entries.ptr then some (s.goto t (.updatePhase other (.loaded s.entries)))
    else if other || v.entry.isSome then some ((s.replace v.entry).goto t .idle)
    else some (s.goto t .idle)
  -- the round of the loop is over
  | .round => some (s.goto t (.finishOrContinue false (.loaded s.entries)))
  | .finishOrContinue keepGoing (.loaded v) =>
    let keepGoing := v.entry.any fun flag => s.pending flag || keepGoing
    some ((s.storePending v false).goto t (.finishOrContinue keepGoing (.computed v)))
  | .finishOrContinue keepGoing (.computed v) =>
    if v.ptr ≠ s.entries.ptr then some (s.goto t (.finishOrContinue keepGoing (.loaded s.entries)))
    else if v.entry.isNone then some ((s.goto t .idle).log .stopped)
    else if keepGoing then some ((s.replace v.entry).goto t .round |>.log .continued)
    else some ((s.replace none).goto t .idle |>.log .stopped)

def step (s : Registry ι) : Event ι → Option (Registry ι)
  | .startOrMark t =>
    if s.threads t = .idle then some (s.goto t (.startOrMark (.loaded s.entries))) else none
  | .updatePhase t other =>
    if s.threads t = .idle then some (s.goto t (.updatePhase other (.loaded s.entries))) else none
  | .run t => s.access t (s.threads t)

@[grind] def Thread.isLoop : Thread → Bool
  | .round | .finishOrContinue _ _ => true
  | _ => false

/-- A trigger was marked and no round has begun since. -/
@[grind] def owed : List Outcome → Bool
  | .markedPending :: _ => true
  | .continued :: _ | [] => false
  | _ :: trace => owed trace

/-- One loop at most, and one while a trigger waits for its round. -/
def Served (s : Registry ι) : Prop :=
  (∀ t u, (s.threads t).isLoop → (s.threads u).isLoop → t = u) ∧
    (owed s.trace → ∃ t, (s.threads t).isLoop)

/-- No mark is reported while the loop has found the flag clear and is about to remove the entry
from the same map. -/
def Undisturbed (s : Registry ι) : Event ι → Prop
  | .run t => s.threads t = .startOrMark (.computed s.entries) → s.entries.entry.isSome →
    ∀ u, s.threads u ≠ .finishOrContinue false (.computed s.entries)
  | _ => True

instance [Fintype ι] (s : Registry ι) (e : Event ι) : Decidable (Undisturbed s e) := by
  cases e <;> unfold Undisturbed <;> infer_instance

@[grind] def Thread.version : Thread → Option Version
  | .startOrMark (.loaded v) | .startOrMark (.computed v) | .updatePhase _ (.loaded v)
  | .updatePhase _ (.computed v) | .finishOrContinue _ (.loaded v)
  | .finishOrContinue _ (.computed v) => some v
  | _ => none

@[grind] def Noted (s : Registry ι) : Prop :=
  (∃ flag, s.entries.entry = some flag ∧ s.pending flag = true) ∨
    ∃ t r, s.threads t = .finishOrContinue true r

/-- What holds whenever marks come. -/
structure Sole (s : Registry ι) : Prop where
  fresh : s.entries.ptr < s.fresh
  old : ∀ t v, (s.threads t).version = some v → v.ptr < s.fresh
  same : ∀ t v, (s.threads t).version = some v → v.ptr = s.entries.ptr → v = s.entries
  single : ∀ t u, (s.threads t).isLoop → (s.threads u).isLoop → t = u
  slot : s.entries.entry.isSome ↔ ∃ t, (s.threads t).isLoop
  held : ∀ t v, (s.threads t).isLoop → (s.threads t).version = some v → v.entry = s.entries.entry
  balance : s.trace.count .started = s.trace.count .stopped + s.entries.entry.isSome.toNat

/-- What becomes of a mark when it does not come between the swap of the flag and the removal. -/
structure Marks (s : Registry ι) : Prop where
  noted : owed s.trace → Noted s
  marked : ∀ t, s.threads t = .startOrMark (.computed s.entries) → s.entries.entry.isSome → Noted s
  leaving : ∀ t, s.threads t = .finishOrContinue false (.computed s.entries) → owed s.trace = false

structure Inv (s : Registry ι) : Prop extends Sole s, Marks s

omit [DecidableEq ι] in
theorem Inv.served (h : Inv s) : Served s := by
  refine ⟨h.single,fun ho => ?_⟩
  obtain ⟨flag,hf,-⟩ | ⟨t,r,ht⟩ := h.noted ho
  · exact h.slot.mp (by simp [hf])
  · exact ⟨t,by rw [ht]; rfl⟩

theorem Sole.access (h : Sole s) (hs : s.access t (s.threads t) = some s') : Sole s' := by
  cases h
  cases hth : s.threads t with rw [hth] at hs
  | idle => cases hs
  | round =>
    cases hs
    constructor <;> simp only [Registry.goto, update_apply] at * <;> grind -linarith
  | startOrMark r | updatePhase other r | finishOrContinue k r =>
    cases r with
    | loaded v =>
      cases hs
      constructor <;> simp only [Registry.goto, Registry.storePending, update_apply] at * <;>
        grind -linarith
    | computed v =>
      simp only [Registry.access] at hs
      split_ifs at hs
      all_goals
        cases hs
        constructor <;>
          simp only [Registry.goto, Registry.replace, Registry.log, update_apply] at * <;>
          grind -linarith [isSome_iff_exists]

theorem Sole.step {e : Event ι} (h : Sole s) (hs : step s e = some s') : Sole s' := by
  cases e with
  | run t => exact h.access hs
  | startOrMark t | updatePhase t other =>
    obtain ⟨hidle,⟨⟩⟩ := ite_none_right_eq_some.mp hs
    cases h
    constructor <;> simp only [Registry.goto, update_apply] at * <;> grind -linarith

section
variable (h : Inv s)
include h

theorem Inv.call {th : Thread} (hidle : s.threads t = .idle) (hloop : th.isLoop = false)
    (hmark : ∀ v, th ≠ .startOrMark (.computed v)) : Marks (s.goto t th) := by
  obtain ⟨-,⟨⟩⟩ := h
  constructor <;> simp only [Registry.goto, update_apply, Noted] at * <;> grind -linarith

theorem Inv.updatePhase {other : Bool} (hth : s.threads t = .updatePhase other r)
    (hs : s.access t (.updatePhase other r) = some s') : Marks s' := by
  obtain ⟨⟨⟩,⟨⟩⟩ := h
  cases r with
  | loaded v =>
    cases hs
    constructor <;> simp only [Registry.goto, update_apply, Noted] at * <;> grind -linarith
  | computed v =>
    simp only [Registry.access] at hs
    split_ifs at hs
    all_goals
      cases hs
      constructor <;> simp only [Registry.goto, Registry.replace, update_apply, Noted] at * <;>
        grind -linarith

/-- The store is on the flag of the entry when the map is still the same one. -/
theorem Inv.startOrMark (hth : s.threads t = .startOrMark r) (hu : Undisturbed s (.run t))
    (hs : s.access t (.startOrMark r) = some s') : Marks s' := by
  obtain ⟨⟨⟩,⟨⟩⟩ := h
  cases r with
  | loaded v =>
    cases hs
    constructor <;> simp only [Registry.goto, Registry.storePending, update_apply, Noted] at * <;>
      grind -linarith [isSome_iff_exists]
  | computed v =>
    simp only [Registry.access] at hs
    simp only [Undisturbed] at hu
    split_ifs at hs
    all_goals
      cases hs
      constructor <;>
        simp only [Registry.goto, Registry.replace, Registry.log, update_apply, Noted] at * <;>
        grind -linarith [isSome_iff_exists]

theorem Inv.finishOrContinue {k : Bool} (hth : s.threads t = .finishOrContinue k r)
    (hs : s.access t (.finishOrContinue k r) = some s') : Marks s' := by
  obtain ⟨⟨hfresh,hold,hsame,hsingle,hslot,hheld,-⟩,⟨hnoted,hmarked,hleaving⟩⟩ := h
  cases r with
  | loaded v =>
    -- the loop finds the entry it was started with, so the flag it swaps is the one that is marked
    have hloop : (s.threads t).isLoop := by rw [hth]; rfl
    obtain ⟨flag,hflag⟩ := isSome_iff_exists.mp (hslot.mpr ⟨t,hloop⟩)
    have hv : v.entry = some flag := (hheld t v hloop (by rw [hth]; rfl)).trans hflag
    have hkept : Noted s → (s.pending flag || k) = true := by
      rintro (⟨f,hf,hp⟩ | ⟨u,r,hr⟩)
      · cases hflag.symm.trans hf
        simp [hp]
      · cases hsingle u t (by rw [hr]; rfl) hloop
        cases hth.symm.trans hr
        simp
    cases hs
    have hnoted' : Noted s → Noted ((s.storePending v false).goto t (.finishOrContinue
        (v.entry.any fun flag => s.pending flag || k) (.computed v))) := by
      intro hn
      exact .inr ⟨t,.computed v,by simp [Registry.goto, hv, hkept hn]⟩
    refine ⟨fun ho => hnoted' (hnoted ho),?_,?_⟩
    all_goals
      simp only [Registry.goto, Registry.storePending, update_apply, hv, any_some] at *
      grind -linarith
  | computed v =>
    simp only [Registry.access] at hs
    split_ifs at hs
    all_goals
      cases hs
      constructor <;>
        simp only [Registry.goto, Registry.replace, Registry.log, update_apply, Noted] at * <;>
        grind -linarith [isSome_iff_exists]

theorem Inv.step {e : Event ι} (hu : Undisturbed s e) (hs : step s e = some s') : Inv s' := by
  refine ⟨h.toSole.step hs,?_⟩
  cases e with
  | startOrMark t =>
    obtain ⟨hidle,⟨⟩⟩ := ite_none_right_eq_some.mp hs
    exact h.call hidle rfl (by simp)
  | updatePhase t other =>
    obtain ⟨hidle,⟨⟩⟩ := ite_none_right_eq_some.mp hs
    exact h.call hidle rfl (by simp)
  | run t =>
    simp only [Ddns.step] at hs
    cases hth : s.threads t with rw [hth] at hs
    | idle => cases hs
    | startOrMark r => exact h.startOrMark hth hu hs
    | updatePhase other r => exact h.updatePhase hth hs
    | finishOrContinue k r => exact h.finishOrContinue hth hs
    | round =>
      cases hs
      obtain ⟨⟨⟩,⟨⟩⟩ := h
      constructor <;> simp only [Registry.goto, update_apply, Noted] at * <;> grind -linarith

end

omit [DecidableEq ι] in
theorem Sole.default : Sole (.default : Registry ι) := by
  constructor <;> simp [Registry.default, Thread.isLoop, Thread.version]

/-- In every interleaving of such accesses no trigger is lost. -/
theorem served_of_undisturbed (hrun : Runs step Undisturbed .default s) : Served s := by
  refine (hrun.invariant Inv (fun _ _ _ h he hs => h.step he hs) ⟨.default,?_⟩).served
  constructor <;> simp [Registry.default, owed]

/-- A trigger starts the loop; another one comes during the round and gets the next one. -/
theorem served_sample : ∃ s, Runs step Undisturbed (.default : Registry (Fin 2)) s ∧
    s.trace = [.continued, .markedPending, .started] ∧ Served s := by
  refine runs_and (runs_of_decide _ _ [.startOrMark 0, .run 0, .run 0, .startOrMark 1, .run 1,
    .run 1, .run 0, .run 0,
    .run 0] _ _ (by decide +kernel)) ?_
  exact fun _ hrun _ => served_of_undisturbed hrun

def AlwaysServed : Prop :=
  ∀ (ι : Type) [DecidableEq ι] (s : Registry ι), Runs step (fun _ _ => True) .default s → Served s

/-- The mark is made and reported between the loop's swap of the flag and its removal of the
entry. -/
theorem alwaysServed_fails : ¬AlwaysServed := by
  intro h
  obtain ⟨s,hrun,howed,hnone⟩ :=
    runs_of_steps step .default [.startOrMark (0 : Fin 2), .run 0, .run 0, .startOrMark 1, .run 0,
      .run 0, .run 1, .run 1, .run 0]
    (fun s => owed s.trace = true ∧ ∀ t, (s.threads t).isLoop = false) (by decide +kernel)
  obtain ⟨t,ht⟩ := (h _ s hrun).2 howed
  rw [hnone t] at ht
  cases ht

/-- Whatever the interleaving, a job has one loop at most, it has an entry exactly as long as it has
one, and every other loop that was started has been stopped once. -/
theorem one_loop_of_runs (hrun : Runs step (fun _ _ => True) .default s) :
    (∀ t u, (s.threads t).isLoop → (s.threads u).isLoop → t = u) ∧
      (s.entries.entry.isSome ↔ ∃ t, (s.threads t).isLoop) ∧
      s.trace.count .started = s.trace.count .stopped + s.entries.entry.isSome.toNat := by
  have h : Sole s := hrun.invariant Sole (fun _ _ _ h _ hs => h.step hs) .default
  exact ⟨h.single,h.slot,h.balance⟩

theorem one_loop_of_runs_started :
    ∃ s, Runs step (fun _ _ => True) (.default : Registry (Fin 2)) s ∧ s.trace = [.started] ∧
    s.trace.count .started = s.trace.count .stopped + s.entries.entry.isSome.toNat :=
  runs_and (runs_of_steps step .default [.startOrMark 0, .run 0, .run 0] _ (by decide))
    fun _ hrun _ => (one_loop_of_runs hrun).2.2

end Landscape.Ddns
