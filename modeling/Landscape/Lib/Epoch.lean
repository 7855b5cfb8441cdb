import Mathlib.Data.List.Basic

/-! A cache in front of tables that change: how old an entry is, counted in the changes since it was
stored, and when no entry has outlived a change. -/
namespace Landscape.Epoch
variable {κ β μ : Type} {c c' : κ → Option β} {k : κ}

/-- The changes of the tables so far, in their order, and for each key how many of them had happened
when its entry was stored. -/
structure History (κ μ : Type) where
  changes : List (μ × μ)
  storedAt : κ → Nat

namespace History
variable {h : History κ μ} {m m' : μ}

def since (h : History κ μ) (k : κ) : List (μ × μ) := h.changes.drop (h.storedAt k)

def store (h : History κ μ) (c c' : κ → Option β) : History κ μ :=
  { h with storedAt := fun k =>
      if (c k).isNone && (c' k).isSome then h.changes.length else h.storedAt k }

def change (h : History κ μ) (m m' : μ) : History κ μ :=
  { h with changes := h.changes ++ [(m, m')] }

theorem mem_since_change {x : μ × μ} (hx : x ∈ (h.change m m').since k) :
    x ∈ h.since k ∨ x = (m, m') := by
  unfold since change at hx
  rw [List.drop_append] at hx
  rcases List.mem_append.mp hx with hx | hx
  · exact .inl hx
  · exact .inr (List.mem_singleton.mp (List.mem_of_mem_drop hx))

theorem since_store_of_isSome (hk : (c k).isSome) : (h.store c c').since k = h.since k := by
  have hold : (c k).isNone = false := by rw [← Option.not_isSome, hk, Bool.not_true]
  unfold since store
  dsimp only
  rw [hold, Bool.false_and, if_neg Bool.false_ne_true]

theorem since_store_of_isNone (hk : (c k).isNone) (hk' : (c' k).isSome) :
    (h.store c c').since k = [] := by
  unfold since store
  dsimp only
  rw [hk, hk', Bool.and_self, if_pos rfl]
  exact List.drop_length

end History

/-- No entry has lived through a change that changed anything. -/
def Settled (c : κ → Option β) (h : History κ μ) : Prop :=
  ∀ k, (c k).isSome → ∀ x ∈ h.since k, x.1 = x.2

variable {h : History κ μ} {m m' : μ}

theorem settled_of_empty (hc : ∀ k, c k = none) : Settled c h := by
  intro k hk
  rw [hc k] at hk
  cases hk

theorem Settled.store (hs : Settled c h) : Settled c' (h.store c c') := by
  intro k hk
  by_cases hold : (c k).isSome
  · rw [History.since_store_of_isSome hold]
    exact hs k hold
  · have hnone : (c k).isNone = true :=
      by rw [← Option.not_isSome, (Bool.not_eq_true _).mp hold, Bool.not_false]
    rw [History.since_store_of_isNone hnone hk]
    nofun

theorem Settled.mono (hs : Settled c h) (hsub : ∀ k, (c' k).isSome → (c k).isSome) : Settled c' h :=
  fun k hk => hs k (hsub k hk)

/-- A change either leaves the tables as they are or takes all entries with it. -/
theorem Settled.change (hs : Settled c h) (hm : m = m') (hsub : ∀ k, (c' k).isSome → (c k).isSome) :
    Settled c' (h.change m m') := by
  intro k hk x hx
  rcases History.mem_since_change hx with hx | rfl
  · exact hs k (hsub k hk) x hx
  · exact hm

end Landscape.Epoch
