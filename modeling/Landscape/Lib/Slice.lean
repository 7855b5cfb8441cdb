import Mathlib.Data.List.Basic

/-! Reading from a list by index and by range, where a read out of bounds ends the computation, and
the loop over records that lie one after another. -/
namespace Landscape.Slice
variable {α β : Type}

inductive Fault where
  | outOfBounds
  deriving DecidableEq

abbrev Read (α : Type) := Except Fault α

def index (data : List α) (i : Nat) : Read α := data[i]?.elim (.error .outOfBounds) .ok

def slice (data : List α) (lo hi : Nat) : Read (List α) :=
  if lo ≤ hi ∧ hi ≤ data.length then .ok ((data.take hi).drop lo) else .error .outOfBounds

def Safe (x : Read α) : Prop := ∃ a, x = .ok a

theorem safe_ok (a : α) : Safe (.ok a : Read α) := ⟨a,rfl⟩

variable {x : Read α} {f : α → Read β} {data : List α} {i lo hi : Nat} {p : Prop}

theorem Safe.bind (hx : Safe x) (hf : ∀ a, x = .ok a → Safe (f a)) : Safe (x >>= f) := by
  obtain ⟨a,rfl⟩ := hx
  exact hf a rfl

theorem Safe.thenOk {g : α → β} (hx : Safe x) : Safe (x >>= fun a => .ok (g a)) :=
  hx.bind fun a _ => safe_ok (g a)

theorem Safe.of_bind (h : Safe (x >>= f)) : Safe x := by
  cases x with
  | ok a => exact safe_ok a
  | error e =>
    obtain ⟨b,hb⟩ := h
    cases hb

theorem safe_ite [Decidable p] {y : Read α} (hx : p → Safe x) (hy : ¬p → Safe y) :
    Safe (if p then x else y) := by
  split
  · exact hx ‹_›
  · exact hy ‹_›

theorem safe_guard [Decidable p] {a : α} (hx : ¬p → Safe x) : Safe (if p then .ok a else x) :=
  safe_ite (fun _ => safe_ok a) hx

theorem safe_foldlM {f : β → α → Read β} (h : ∀ b a, Safe (f b a)) (l : List α) (b : β) :
    Safe (l.foldlM f b) := by
  induction l generalizing b with
  | nil => exact safe_ok b
  | cons a l ih =>
    exact (h b a).bind fun b' _ => ih b'

theorem safe_mapM (h : ∀ a, Safe (f a)) (l : List α) : Safe (l.mapM f) := by
  induction l with
  | nil => exact safe_ok []
  | cons a l ih =>
    rw [List.mapM_cons]
    exact (h a).bind fun _ _ => ih.bind fun _ _ => safe_ok _

theorem index_of_lt (h : i < data.length) : index data i = .ok (data.get ⟨i,h⟩) := by
  rw [index, List.getElem?_eq_getElem h]
  rfl

theorem safe_index (h : i < data.length) : Safe (index data i) := ⟨_,index_of_lt h⟩

theorem safe_slice (h : lo ≤ hi ∧ hi ≤ data.length) : Safe (slice data lo hi) :=
  ⟨_,if_pos h⟩

theorem not_safe_index (h : data.length ≤ i) : ¬Safe (index data i) := by
  rintro ⟨a,ha⟩
  rw [index, List.getElem?_eq_none h] at ha
  cases ha

theorem not_safe_slice (h : data.length < hi) : ¬Safe (slice data lo hi) := by
  rintro ⟨a,ha⟩
  rw [slice, if_neg fun hle => absurd hle.2 (Nat.not_le_of_lt h)] at ha
  cases ha

theorem length_of_slice {s : List α} (h : slice data lo hi = .ok s) : s.length = hi - lo := by
  rw [slice] at h
  split at h
  · rename_i hle
    cases h
    rw [List.length_drop, List.length_take, Nat.min_eq_left hle.2]
  · cases h

/-! The loop over records: `read i` is the record at `i` with the index of the next one, if the loop
goes on there, and nothing if the loop ends before it. -/

def scan (read : Nat → Read (Option (α × Option Nat))) : Nat → Nat → Read (List α)
  | 0, _ => .ok []
  | fuel + 1, i => do
    match ← read i with
    | none => return []
    | some (a, none) => return [a]
    | some (a, some next) => return a :: (← scan read fuel next)

variable {read : Nat → Read (Option (α × Option Nat))}

theorem safe_scan (h : ∀ i, Safe (read i)) (fuel i : Nat) : Safe (scan read fuel i) := by
  induction fuel generalizing i with
  | zero => exact safe_ok _
  | succ fuel ih =>
    refine (h i).bind fun r _ => ?_
    match r with
    | none | some (a, none) => exact safe_ok _
    | some (a, some next) => exact (ih next).bind fun _ _ => safe_ok _

structure Forward (read : Nat → Read (Option (α × Option Nat))) (n : Nat) : Prop where
  stops : ∀ i, n ≤ i → read i = .ok none
  moves : ∀ i a next, read i = .ok (some (a, some next)) → i < next

/-- There is no need for more rounds than there is room. -/
theorem Forward.scan_add {n fuel : Nat} (hf : Forward read n) (h : n ≤ fuel + i) (more : Nat) :
    scan read (fuel + more) i = scan read fuel i := by
  induction fuel generalizing i with
  | zero =>
    cases more with
    | zero => rfl
    | succ more =>
      change scan read (0 + (more + 1)) i = .ok []
      rw [Nat.zero_add, scan, hf.stops i (by omega)]
      rfl
  | succ fuel ih =>
    rw [Nat.add_right_comm, scan, scan]
    match hread : read i with
    | .error e => rfl
    | .ok none => rfl
    | .ok (some (a, none)) => rfl
    | .ok (some (a, some next)) =>
      have hlt := hf.moves i a next hread
      change (do return a :: (← scan read (fuel + more) next)) =
        (do return a :: (← scan read fuel next) : Read _)
      rw [ih (by omega)]

end Landscape.Slice
