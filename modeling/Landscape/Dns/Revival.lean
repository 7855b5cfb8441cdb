import Landscape.Lib.Run

/-! The health of an upstream, as concurrent lookups and the revival loops change it. Each access to
one of its two atomics is a step of its own. -/
namespace Landscape.Dns.Revival
open Run

def upstreamFailureThreshold : UInt32 := 3

/-- A lookup that was admitted: at the upstream, or between the two accesses of `record_success` or
of `record_failure`. -/
inductive Lookup where
  | inFlight
  | cleared
  | counted (failures : UInt32)
  deriving DecidableEq

/-- A revival loop: about to look at the flag, at its probe, between the accesses of
`record_success`, or in its sleep. -/
inductive Probe where
  | top
  | probing
  | cleared
  | asleep
  deriving DecidableEq

structure Health where
  offline : Bool
  consecutiveFailures : UInt32
  lookups : List Lookup
  loops : List Probe

def Health.new : Health := ⟨false,0,[],[]⟩

/-- `i` is the place of the lookup or of the loop among those that are there. A lookup ends without
a record if its error is none of the transport or its client is gone. -/
inductive Event where
  | lookup
  | ends (i : Nat)
  | succeeds (i : Nat)
  | revives (i : Nat)
  | fails (i : Nat)
  | flips (i : Nat)
  | checks (i : Nat)
  | probed (i : Nat) (answered : Bool)
  | probeRevives (i : Nat)
  | wakes (i : Nat)

def step (s : Health) : Event → Option Health
  | .lookup => some (if s.offline then s else { s with lookups := s.lookups ++ [.inFlight] })
  | .ends i =>
    if s.lookups[i]? = some .inFlight then some { s with lookups := s.lookups.eraseIdx i } else none
  | .succeeds i =>
    if s.lookups[i]? = some .inFlight then
      some { s with consecutiveFailures := 0, lookups := s.lookups.set i .cleared }
    else none
  | .revives i =>
    if s.lookups[i]? = some .cleared then
      some { s with offline := false, lookups := s.lookups.eraseIdx i }
    else none
  | .fails i =>
    if s.lookups[i]? = some .inFlight then
      some { s with
        consecutiveFailures := s.consecutiveFailures + 1
        lookups := s.lookups.set i (.counted (s.consecutiveFailures + 1)) }
    else none
  | .flips i =>
    match s.lookups[i]? with
    | some (.counted failures) =>
      let s := { s with lookups := s.lookups.eraseIdx i }
      some (if failures ≥ upstreamFailureThreshold ∧ s.offline = false then
          { s with offline := true, loops := s.loops ++ [.top] }
        else s)
    | _ => none
  | .checks i =>
    if s.loops[i]? = some .top then
      some { s with loops := if s.offline then s.loops.set i .probing else s.loops.eraseIdx i }
    else none
  | .probed i answered =>
    if s.loops[i]? = some .probing then
      some (if answered then { s with consecutiveFailures := 0, loops := s.loops.set i .cleared }
        else { s with loops := s.loops.set i .asleep })
    else none
  | .probeRevives i =>
    if s.loops[i]? = some .cleared then
      some { s with offline := false, loops := s.loops.set i .asleep }
    else none
  | .wakes i =>
    if s.loops[i]? = some .asleep then some { s with loops := s.loops.set i .top } else none

/-- A lookup that takes the upstream offline finds no loop of an earlier time. -/
def Settled (s : Health) : Event → Prop
  | .flips _ => s.offline = false → s.loops = []
  | _ => True

/-- Only the lookup that takes the upstream offline starts a loop, and none ends while it is
offline. -/
theorem step_loops {s s' : Health} {e : Event} (hs : step s e = some s') :
    (∃ i, e = .flips i) ∧ s.offline = false ∧ s'.loops = s.loops ++ [.top] ∨
      (s'.offline = true → s.offline = true) ∧ s'.loops.length ≤ s.loops.length ∧
        (s.offline = true → s'.loops.length = s.loops.length) := by
  cases e with
  | flips i =>
    simp only [step] at hs
    split at hs
    · cases hs
      split
      · rename_i hflip
        exact .inl ⟨⟨i,rfl⟩,hflip.2,rfl⟩
      · exact .inr ⟨id,Nat.le_refl _,fun _ => rfl⟩
    · cases hs
  | checks i =>
    simp only [step] at hs
    split at hs <;> cases hs
    refine .inr ⟨id,?_⟩
    cases s.offline <;> simp [List.length_eraseIdx_le]
  | probed i answered =>
    simp only [step] at hs
    split at hs <;> cases hs
    cases answered <;> simp
  | lookup =>
    cases hs
    split <;> simp
  | _ =>
    simp only [step] at hs
    split at hs <;> cases hs
    simp

instance (s : Health) (e : Event) : Decidable (Settled s e) := by
  cases e <;> unfold Settled <;> infer_instance

def outage : List Event :=
  [.lookup, .lookup, .lookup, .fails 0, .fails 1, .fails 2, .flips 0, .flips 0, .flips 0]

/-- In every run an offline upstream has a loop that probes it, however the lookups and the loops
interleave. -/
theorem some_loop_of_runs {s : Health} (hr : Runs step (fun _ _ => True) Health.new s)
    (hoff : s.offline = true) :
    s.loops ≠ [] := by
  refine hr.invariant (fun s => s.offline = true → s.loops ≠ []) ?_ (by simp [Health.new]) hoff
  intro s e s' hinv _ hs hoff
  rcases step_loops hs with ⟨-,-,hloops⟩ | ⟨hflag,-,heq⟩
  · simp [hloops]
  · rw [← List.length_pos_iff, heq (hflag hoff), List.length_pos_iff]
    exact hinv (hflag hoff)

theorem some_loop_of_runs_outage : ∃ s, Runs step (fun _ _ => True) Health.new s ∧
    s.offline = true ∧ s.loops ≠ [] :=
  runs_and (runs_of_steps step Health.new outage _ (by decide))
    fun _ hr hoff => some_loop_of_runs hr hoff

end Landscape.Dns.Revival
