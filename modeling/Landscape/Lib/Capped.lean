import Mathlib.Data.Finset.Card
import Mathlib.Data.List.AList

/-! Maps that hold a bounded number of entries. -/
namespace Landscape.Capped
open List
variable {κ β : Type} [DecidableEq κ] {max : Nat} {k : κ} {v : β} {m : AList fun _ : κ => β}

def tryInsert (max : Nat) (k : κ) (v : β) (m : AList fun _ : κ => β) :
    Option (AList fun _ : κ => β) :=
  if k ∈ m ∨ m.keys.length < max then some (m.insert k v) else none

theorem dedup_length_mono {l₁ l₂ : List κ} (h : l₁ ⊆ l₂) : l₁.dedup.length ≤ l₂.dedup.length := by
  have hsub : l₁.dedup ⊆ l₂.dedup := by
    intro a ha
    rw [mem_dedup] at ha ⊢
    exact h ha
  exact (subperm_of_subset (nodup_dedup l₁) hsub).length_le

theorem tryInsert_of_subset {keys : List κ} (hk : k ∈ keys) (hm : m.keys ⊆ keys)
    (hlen : keys.dedup.length ≤ max) : tryInsert max k v m = some (m.insert k v) := by
  unfold tryInsert
  rw [if_pos]
  by_cases hmem : k ∈ m
  · exact .inl hmem
  · refine .inr ?_
    have hcons : (k :: m.keys).Nodup := nodup_cons.mpr ⟨hmem,m.keys_nodup⟩
    have hsub : k :: m.keys ⊆ keys := cons_subset.mpr ⟨hk,hm⟩
    have hle := dedup_length_mono hsub
    rw [hcons.dedup, length_cons] at hle
    omega

end Landscape.Capped
