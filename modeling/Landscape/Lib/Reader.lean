import Mathlib.Data.List.Basic

/-! Readers that take bytes off the front of their input. -/
namespace Landscape
variable {α β : Type}

abbrev Reader (α : Type) := StateT (List UInt8) Option α

namespace Reader

def array (n : Nat) : Reader (Vector UInt8 n) := fun input =>
  if h : n ≤ input.length then some (⟨(input.take n).toArray,by simp [h]⟩, input.drop n) else none

def vec (n : Nat) : Reader (List UInt8) := do return (← array n).toList

def u8 : Reader UInt8 := do return (← array 1)[0]

/-- Any `n` bytes are read as something that meets `P`, whatever comes after them. -/
def Reads (r : Reader α) (n : Nat) (P : α → Prop) : Prop :=
  ∀ input : List UInt8, input.length = n → ∃ a, P a ∧ ∀ rest, r.run (input ++ rest) = some (a, rest)

def Yields (r : Reader α) (P : α → Prop) : Prop :=
  ∀ input a rest, r.run input = some (a, rest) → P a

variable {r : Reader α} {f : α → Reader β} {P : β → Prop} {Q : α → Prop} {n m : Nat} {b : β}

theorem bind_run {input rest : List UInt8} {a : α} (h : r.run input = some (a, rest)) :
    (r >>= f).run input = (f a).run rest := by
  rw [StateT.run_bind, h]
  rfl

theorem array_run (v : Vector UInt8 n) (rest : List UInt8) :
    (array n).run (v.toList ++ rest) = some (v, rest) := by
  obtain ⟨bytes,rfl⟩ := v
  simp [array, StateT.run, Vector.toList]

theorem vec_run {data : List UInt8} (h : data.length = n) (rest : List UInt8) :
    (vec n).run (data ++ rest) = some (data, rest) :=
  bind_run (array_run ⟨data.toArray,h⟩ rest)

theorem u8_run (b : UInt8) (rest : List UInt8) : u8.run (b :: rest) = some (b, rest) :=
  bind_run (array_run #v[b] rest)

theorem Reads.pure (h : P b) : Reads (Pure.pure b) 0 P := by
  intro input hlen
  rw [List.eq_nil_of_length_eq_zero hlen]
  exact ⟨b,h,fun _ => rfl⟩

theorem reads_array : Reads (array n) n fun _ => True :=
  fun input hlen => ⟨⟨input.toArray,hlen⟩,trivial,array_run ⟨input.toArray,hlen⟩⟩

theorem Reads.cast (h : Reads r n Q) (he : n = m) : Reads r m Q := he ▸ h

theorem Reads.bind (hr : Reads r n Q) (hf : ∀ a, Reads (f a) m P) : Reads (r >>= f) (n + m) P := by
  intro input hlen
  obtain ⟨a,-,ha⟩ := hr (input.take n) (by simp [hlen])
  obtain ⟨b,hb,hrest⟩ := hf a (input.drop n) (by simp [hlen])
  refine ⟨b,hb,fun rest => ?_⟩
  rw [← List.take_append_drop n input, List.append_assoc, bind_run (ha _)]
  exact hrest rest

theorem Yields.pure (h : P b) : Yields (Pure.pure b) P := by
  rintro input a rest ⟨⟩
  exact h

theorem Yields.bind (hf : ∀ a, Yields (f a) P) : Yields (r >>= f) P := by
  intro input b rest h
  rw [StateT.run_bind] at h
  obtain ⟨⟨a,input'⟩,-,hb⟩ := Option.bind_eq_some_iff.mp h
  exact hf a input' b rest hb

end Landscape.Reader
