import Mathlib.Algebra.BigOperators.Ring.Finset
import Mathlib.Algebra.Order.BigOperators.Group.Finset
import Mathlib.Data.Int.Order.Basic
import Mathlib.Tactic.Ring

/-! Turns are given out one by one, each to a claimant that is owed most. -/
namespace Landscape.Apportion
open Finset
variable {ι : Type*} [DecidableEq ι] {s : Finset ι} {total : ℕ} {w : ι → ℕ} {l : List ι} {i j : ι}

def credit (total : ℕ) (w : ι → ℕ) (l : List ι) (i : ι) : ℤ := l.length * w i - total * l.count i

inductive Greedy (s : Finset ι) (total : ℕ) (w : ι → ℕ) : List ι → Prop
  | nil : Greedy s total w []
  | turn {l : List ι} {i : ι} (h : Greedy s total w l) (hi : i ∈ s)
      (hmax : ∀ j ∈ s, credit total w l j + w j ≤ credit total w l i + w i) :
        Greedy s total w (l ++ [i])

theorem credit_self : credit total w (l ++ [i]) i = credit total w l i + w i - total := by
  simp [credit]
  ring

theorem credit_other (h : i ≠ j) : credit total w (l ++ [i]) j = credit total w l j + w j := by
  simp [credit, h]
  ring

theorem Greedy.mem (h : Greedy s total w l) : ∀ i ∈ l, i ∈ s := by
  induction h with
  | nil => nofun
  | turn _ hi _ ih => simpa [or_imp, forall_and, hi] using ih

section
variable (hsum : ∑ k ∈ s, w k = total)
include hsum

theorem Greedy.sum_credit (h : Greedy s total w l) : ∑ k ∈ s, credit total w l k = 0 := by
  induction h with
  | nil => simp [credit]
  | @turn l i _ hi _ ih =>
    have hother : ∀ k ∈ s.erase i, credit total w (l ++ [i]) k = credit total w l k + w k :=
      fun k hk => credit_other (ne_of_mem_erase hk).symm
    rw [← add_sum_erase s _ hi, credit_self, sum_congr rfl hother, sum_add_distrib]
    rw [← add_sum_erase s _ hi] at ih hsum
    have hcast : (w i + ∑ k ∈ s.erase i, (w k : ℤ)) = total := by exact_mod_cast hsum
    omega

theorem Greedy.neg_lt_credit (htotal : 0 < total) (h : Greedy s total w l) :
    ∀ k ∈ s, -total < credit total w l k := by
  induction h with
  | nil => simp [credit, htotal]
  | @turn l i h hi hmax ih =>
    intro k hk
    obtain rfl | hne := eq_or_ne i k
    · -- all are owed a turn together, so the one that is owed most is owed something
      have hlt : ∑ k ∈ s, (0 : ℤ) < ∑ k ∈ s, (credit total w l k + w k) := by
        rw [sum_add_distrib, h.sum_credit hsum, ← Nat.cast_sum, hsum]
        simpa using htotal
      obtain ⟨k,hk,hlt⟩ := exists_lt_of_sum_lt hlt
      have hle := hmax k hk
      rw [credit_self]
      omega
    · have hlt := ih k hk
      rw [credit_other hne]
      omega

/-- Of three claimants none waits for as much as a whole turn. -/
theorem Greedy.credit_lt (htotal : 0 < total) (hcard : s.card ≤ 3) (h : Greedy s total w l) :
    ∀ k ∈ s, credit total w l k < total := by
  induction h with
  | nil => simp [credit, htotal]
  | @turn l i h hi hmax ih =>
    intro k hk
    have hturn := h.turn hi hmax
    obtain rfl | hne := eq_or_ne i k
    · have hlt := ih i hi
      have hle := single_le_sum (fun j _ => Nat.zero_le (w j)) hi
      rw [credit_self]
      omega
    · have hle := hmax k hk
      have hk' := mem_erase.mpr ⟨hne.symm,hk⟩
      have hrest : -total < ∑ j ∈ (s.erase i).erase k, credit total w (l ++ [i]) j := by
        have hone : ((s.erase i).erase k).card ≤ 1 := by
          rw [card_erase_of_mem hk', card_erase_of_mem hi]
          omega
        obtain hzero | hone := Nat.le_one_iff_eq_zero_or_eq_one.mp hone
        · rw [card_eq_zero.mp hzero, sum_empty]
          omega
        · obtain ⟨j,hj⟩ := card_eq_one.mp hone
          have hmem : j ∈ (s.erase i).erase k := by simp [hj]
          rw [hj, sum_singleton]
          exact hturn.neg_lt_credit hsum htotal j (mem_of_mem_erase (mem_of_mem_erase hmem))
      have hzero := hturn.sum_credit hsum
      rw [← add_sum_erase s _ hi, ← add_sum_erase (s.erase i) _ hk', credit_self,
        credit_other hne] at hzero
      rw [credit_other hne]
      omega

theorem Greedy.count_le (htotal : 0 < total) (h : Greedy s total w l) (hi : i ∈ s) :
    l.count i ≤ (l.length * w i + (total - 1)) / total := by
  have hlow := h.neg_lt_credit hsum htotal i hi
  rw [credit, ← Nat.cast_mul, ← Nat.cast_mul] at hlow
  rw [Nat.le_div_iff_mul_le htotal, mul_comm]
  omega

theorem Greedy.count_eq (htotal : 0 < total) (hcard : s.card ≤ 3) (h : Greedy s total w l)
    (hi : i ∈ s) :
    l.count i = l.length * w i / total ∨ l.count i = (l.length * w i + (total - 1)) / total := by
  have hlow := h.neg_lt_credit hsum htotal i hi
  have hup := h.credit_lt hsum htotal hcard i hi
  rw [credit, ← Nat.cast_mul, ← Nat.cast_mul, mul_comm total] at hlow hup
  have hsucc : (l.count i + 1) * total = l.count i * total + total := by rw [add_mul, one_mul]
  by_cases hle : l.count i * total ≤ l.length * w i
  · exact .inl (Nat.div_eq_of_lt_le hle (by omega)).symm
  · exact .inr (Nat.div_eq_of_lt_le (by omega) (by omega)).symm

end

end Landscape.Apportion
