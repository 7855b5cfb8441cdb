import Landscape.Lib.Run
import Mathlib.Logic.Function.Basic

/-! The relay of a TLS connection that is passed through: one copy task for what each side sends,
and a caller that waits for the first of them to end. -/
namespace Landscape.Gateway
open Run Function Option

inductive Side where
  | downstream
  | upstream
  deriving DecidableEq

def Side.other : Side → Side
  | .downstream => .upstream
  | .upstream => .downstream

structure Half where
  unsent : List UInt8
  queued : List UInt8
  buffer : List UInt8
  delivered : List UInt8
  closed : Bool
  ended : Bool

structure Passthrough where
  halves : Side → Half
  returned : Option Side

def Passthrough.start (sends : Side → List UInt8) : Passthrough :=
  ⟨fun side => ⟨sends side,[],[],[],false,false⟩,none⟩

/-- A side sends some bytes or closes its writing half after the last one; `io::copy` reads or
writes any number of bytes, or meets the end of the stream; an ended task is joined. -/
inductive Event where
  | send (side : Side) (n : Nat)
  | close (side : Side)
  | read (side : Side) (n : Nat)
  | write (side : Side) (n : Nat)
  | finish (side : Side)
  | join (side : Side)

def Half.send (h : Half) (n : Nat) : Half :=
  { h with unsent := h.unsent.drop n, queued := h.queued ++ h.unsent.take n }

def Half.read (h : Half) (n : Nat) : Half :=
  { h with queued := h.queued.drop n, buffer := h.buffer ++ h.queued.take n }

def Half.write (h : Half) (n : Nat) : Half :=
  { h with buffer := h.buffer.drop n, delivered := h.delivered ++ h.buffer.take n }

/-- The caller aborts both tasks when it has joined one: nothing is copied after that. -/
def step (s : Passthrough) : Event → Option Passthrough
  | .send side n => some { s with halves := update s.halves side ((s.halves side).send n) }
  | .close side =>
    if (s.halves side).unsent = [] then
      some { s with halves := update s.halves side { s.halves side with closed := true } }
    else none
  | .read side n =>
    if s.returned.isSome then none else
      some { s with halves := update s.halves side ((s.halves side).read n) }
  | .write side n =>
    if s.returned.isSome then none else
      some { s with halves := update s.halves side ((s.halves side).write n) }
  | .finish side =>
    let h := s.halves side
    if s.returned = none ∧ h.closed ∧ h.queued = [] ∧ h.buffer = [] then
      some { s with halves := update s.halves side { h with ended := true } }
    else none
  | .join side =>
    if s.returned = none ∧ (s.halves side).ended then some { s with returned := some side }
    else none

/-- Everything both sides had to send has been delivered when the function returns. -/
def Relayed (sends : Side → List UInt8) (s : Passthrough) : Prop :=
  s.returned.isSome → ∀ side, (s.halves side).delivered = sends side

def Half.Drained (h : Half) : Prop := h.unsent = [] ∧ h.queued = [] ∧ h.buffer = []

instance (h : Half) : Decidable h.Drained := inferInstanceAs (Decidable (_ ∧ _ ∧ _))

/-- A side closes its writing half once it has been sent everything. -/
def ClosesLast (s : Passthrough) : Event → Prop
  | .close side => (s.halves side.other).Drained
  | _ => True

instance (s : Passthrough) (e : Event) : Decidable (ClosesLast s e) := by
  cases e <;> unfold ClosesLast <;> infer_instance

structure Inv (sends : Side → List UInt8) (s : Passthrough) : Prop where
  kept : ∀ side, (s.halves side).delivered ++ (s.halves side).buffer ++ (s.halves side).queued ++
    (s.halves side).unsent = sends side
  drained : ∀ side, (s.halves side).closed = true →
    (s.halves side).unsent = [] ∧ (s.halves side.other).Drained
  ended : ∀ side, (s.halves side).ended = true → (s.halves side).closed = true ∧
    (s.halves side).Drained
  returned : ∀ side ∈ s.returned, (s.halves side).ended = true

variable {sends : Side → List UInt8} {s s' : Passthrough} {side : Side} {h : Half}

theorem Side.eq_or_other (a b : Side) : a = b ∨ a = b.other :=
  by cases a <;> cases b <;> simp [Side.other]

theorem Half.Drained.delivered (hd : h.Drained) {l : List UInt8}
    (hl : h.delivered ++ h.buffer ++ h.queued ++ h.unsent = l) : h.delivered = l := by
  simpa [hd.1, hd.2.1, hd.2.2] using hl

theorem Inv.move (hi : Inv sends s)
    (hkept : h.delivered ++ h.buffer ++ h.queued ++ h.unsent = sends side)
    (hun : (s.halves side).unsent = [] → h.unsent = []) (hdr : (s.halves side).Drained → h.Drained)
    (hclosed : h.closed = (s.halves side).closed) (hended : h.ended = (s.halves side).ended) :
    Inv sends { s with halves := update s.halves side h } := by
  obtain ⟨hk,hd,he,hr⟩ := hi
  constructor <;> grind [Side.other]

theorem Inv.step (hi : Inv sends s) {e : Event} (hc : ClosesLast s e) (hs : step s e = some s') :
    Inv sends s' := by
  cases e with
  | send side n =>
    cases hs
    refine hi.move ?_ (by simp +contextual [Half.send])
      (by simp +contextual [Half.send, Half.Drained]) rfl rfl
    simpa [Half.send] using hi.kept side
  | close side =>
    obtain ⟨hun,⟨⟩⟩ := ite_none_right_eq_some.mp hs
    obtain ⟨hk,hd,he,hr⟩ := hi
    constructor <;> grind [ClosesLast, Side.other, Half.Drained]
  | read side n =>
    obtain ⟨-,⟨⟩⟩ := ite_none_left_eq_some.mp hs
    refine hi.move ?_ id (by simp +contextual [Half.read, Half.Drained]) rfl rfl
    simpa [Half.read] using hi.kept side
  | write side n =>
    obtain ⟨-,⟨⟩⟩ := ite_none_left_eq_some.mp hs
    refine hi.move ?_ id (by simp +contextual [Half.write, Half.Drained]) rfl rfl
    simpa [Half.write] using hi.kept side
  | finish side =>
    obtain ⟨hend,⟨⟩⟩ := ite_none_right_eq_some.mp hs
    obtain ⟨hk,hd,he,hr⟩ := hi
    constructor <;> grind [Side.other, Half.Drained]
  | join side =>
    obtain ⟨hend,⟨⟩⟩ := ite_none_right_eq_some.mp hs
    exact { hi with returned := by simp [hend.2] }

/-- Where the first side to close waits for the other one's bytes, nothing is lost. -/
theorem relayed_of_closesLast (hrun : Runs step ClosesLast (.start sends) s) : Relayed sends s := by
  have hi := hrun.invariant (Inv sends) (fun _ _ _ h he hs => h.step he hs)
    ⟨fun _ => by simp [Passthrough.start],by simp [Passthrough.start],by simp [Passthrough.start],
      by simp [Passthrough.start]⟩
  intro hret side
  obtain ⟨first,hfirst⟩ := isSome_iff_exists.mp hret
  obtain ⟨hclosed,hdrained⟩ := hi.ended first (hi.returned first hfirst)
  rcases side.eq_or_other first with rfl | rfl
  · exact hdrained.delivered (hi.kept _)
  · exact (hi.drained first hclosed).2.delivered (hi.kept _)

def exchange : Side → List UInt8
  | .downstream => [1]
  | .upstream => [2, 3]

def request : List Event := [.send .downstream 1, .read .downstream 1, .write .downstream 1]

def answer : List Event := [.send .upstream 2, .read .upstream 2, .write .upstream 2]

theorem relayed_sample : ∃ s, Runs step ClosesLast (.start exchange) s ∧ s.returned.isSome ∧
    Relayed exchange s := by
  refine runs_and (runs_of_decide _ _
    (request ++ answer ++ [.close .downstream, .finish .downstream, .join .downstream]) _ _
      (by decide +kernel)) ?_
  exact fun _ hrun _ => relayed_of_closesLast hrun

def AlwaysRelayed : Prop :=
  ∀ sends s, Runs step (fun _ _ => True) (.start sends) s → Relayed sends s

/-- The client closes its writing half after the request, and the answer is cut off. -/
theorem alwaysRelayed_fails : ¬AlwaysRelayed := by
  intro h
  obtain ⟨s,hrun,hret,hnone⟩ := runs_of_steps step (.start exchange)
    (request ++ [.close .downstream, .finish .downstream, .join .downstream])
    (fun s => s.returned.isSome ∧ (s.halves .upstream).delivered.isEmpty) (by decide +kernel)
  rw [h exchange s hrun hret .upstream] at hnone
  cases hnone

end Landscape.Gateway
