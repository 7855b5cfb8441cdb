import Landscape.Route.Slots

/-! The slots of a flow are shared out by the weights of the targets. -/
namespace Landscape.Route
open List

def totalWeight (ws : List UInt32) : Nat := (ws.map (·.toNat)).sum

def shareCeil (ws : List UInt32) (i : Nat) : Nat :=
  (flowTargetSlotCount * weightAt ws i + (totalWeight ws - 1)) / totalWeight ws

def FairShare (ws : List UInt32) (i : Nat) : Prop :=
  (buildSlotIndices ws).count i = flowTargetSlotCount * weightAt ws i / totalWeight ws ∨
    (buildSlotIndices ws).count i = shareCeil ws i

variable {ws : List UInt32}

theorem sum_weighted (ws : List UInt32) : ∑ i ∈ weighted ws, weightAt ws i = totalWeight ws := by
  rw [weighted, Finset.sum_filter_ne_zero]
  induction ws with
  | nil => rfl
  | cons w ws ih =>
    rw [length_cons, Finset.sum_range_succ', add_comm]
    simp only [weightAt, getD_cons_succ, getD_cons_zero, totalWeight, map_cons, sum_cons] at ih ⊢
    rw [ih]

theorem toNat_sum (h : totalWeight ws < 2 ^ 32) : ws.sum.toNat = totalWeight ws := by
  induction ws with
  | nil => rfl
  | cons w ws ih =>
    simp only [totalWeight, map_cons, sum_cons] at h ih ⊢
    rw [UInt32.toNat_add, ih (by omega), Nat.mod_eq_of_lt h]

theorem totalWeight_pos (hsome : ∃ w ∈ ws, w ≠ 0) : 0 < totalWeight ws := by
  obtain ⟨w,hw,hne⟩ := hsome
  have hle := single_le_sum (by simp) _ (mem_map_of_mem (f := (·.toNat)) hw)
  have hpos : w.toNat ≠ 0 := fun h => hne (UInt32.toNat_inj.mp h)
  exact lt_of_lt_of_le (Nat.pos_of_ne_zero hpos) hle

/-- No target has more slots than its share rounded up; with four targets one may have less than its
share rounded down. -/
theorem slots_near_shares (hfits : totalWeight ws < 2 ^ 32) (hsome : ∃ w ∈ ws, w ≠ 0) :
    (buildSlotIndices ws).length = 16 ∧ (∀ i ∈ buildSlotIndices ws, weightAt ws i ≠ 0) ∧
      ∀ i, (buildSlotIndices ws).count i ≤ shareCeil ws i ∧
      ((weighted ws).card ≤ 3 → FairShare ws i) := by
  have hpos := totalWeight_pos hsome
  have htotal := toNat_sum hfits
  have hsum : ws.sum ≠ 0 := by
    intro h
    simp [← htotal, h] at hpos
  obtain ⟨hgreedy,hlen⟩ := buildSlotIndices_greedy hsum
  rw [htotal] at hgreedy
  have hin : ∀ i ∈ buildSlotIndices ws, weightAt ws i ≠ 0 :=
    fun i hi => mem_weighted.mp (hgreedy.mem i hi)
  refine ⟨hlen,hin,fun i => ?_⟩
  unfold FairShare shareCeil
  by_cases hi : weightAt ws i = 0
  · have hcount : (buildSlotIndices ws).count i = 0 := count_eq_zero.mpr fun h => hin i h hi
    simp [hcount, hi]
  · have hle := hgreedy.count_le (sum_weighted ws) hpos (mem_weighted.mpr hi)
    have hfair := fun hcard => hgreedy.count_eq (sum_weighted ws) hpos hcard (mem_weighted.mpr hi)
    rw [hlen] at hle hfair
    exact ⟨hle,hfair⟩

theorem slots_near_shares_sample : FairShare [3, 2, 1] 0 :=
  ((slots_near_shares (by decide) ⟨3,by decide⟩).2.2 0).2 (by decide)

/- Two of four targets should have seven slots each; one has six. -/
example : ¬FairShare [1, 5, 21, 21] 3 := by
  unfold FairShare
  decide

end Landscape.Route
