import Landscape.Lib.Table

/-! Records and an index over their keys. Whoever owns a key is found under it; the index may
also remember a record that owns the key no longer. -/
namespace Landscape.Index
open Function
variable {I K : Type} {owns owns' : I → K → Prop} {index : K → Option I} {i j : I} {k : K}

def Indexed (owns : I → K → Prop) (index : K → Option I) : Prop :=
  ∀ i k, owns i k → index k = some i

theorem Indexed.unique (h : Indexed owns index) (hi : owns i k) (hj : owns j k) : i = j := by
  have heq := (h i k hi).symm.trans (h j k hj)
  exact Option.some.inj heq

theorem Indexed.mono (h : Indexed owns index) (hle : ∀ i k, owns' i k → owns i k) :
    Indexed owns' index := by
  intro i k hk
  exact h i k (hle i k hk)

def retain (index : K → Option I) (keep : I → Bool) : K → Option I := fun k => (index k).filter keep

theorem Indexed.retain (h : Indexed owns index) {keep : I → Bool}
    (hkeep : ∀ i k, owns' i k → owns i k ∧ keep i = true) : Indexed owns' (retain index keep) := by
  intro i k hk
  obtain ⟨hold,hi⟩ := hkeep i k hk
  rw [Index.retain, h i k hold, Option.filter_some, if_pos hi]

variable [DecidableEq K]

/-- A key changes hands: the record the index named for it, if that is another one, has given it
up. -/
theorem Indexed.claim (h : Indexed owns index)
    (hheld : ∀ i' k', owns' i' k' → i' = i ∧ k' = k ∨ owns i' k')
    (hlost : ∀ j, index k = some j → j ≠ i → ¬owns' j k) :
    Indexed owns' (update index k (some i)) := by
  intro i' k' hk'
  by_cases hk : k' = k
  · subst hk
    rw [update_self]
    by_cases hi : i' = i
    · rw [hi]
    · obtain ⟨heq,-⟩ | hold := hheld i' k' hk'
      · exact absurd heq hi
      · exact absurd hk' (hlost i' (h i' k' hold) hi)
  · rw [update_of_ne hk]
    obtain ⟨-,heq⟩ | hold := hheld i' k' hk'
    · exact absurd heq hk
    · exact h i' k' hold

variable [DecidableEq I] {k' : K}

def removeIf (index : K → Option I) (k : K) (i : I) : K → Option I :=
  if index k = some i then update index k none else index

theorem removeIf_of_ne (hj : index k' = some j) (hne : j = i → k' ≠ k) :
    removeIf index k i k' = some j := by
  rw [removeIf]
  split
  · rename_i hk
    have hne' : k' ≠ k := by
      intro heq
      rw [heq, hk] at hj
      exact hne (Option.some.inj hj).symm heq
    rw [update_of_ne hne']
    exact hj
  · exact hj

theorem removeIf_eq_some (h : removeIf index k i k' = some j) : index k' = some j := by
  rw [removeIf] at h
  split at h
  · exact (Table.of_update_none h).2
  · exact h

theorem Indexed.take (h : Indexed owns index)
    (htake : ∀ i' k', owns' i' k' → owns i' k' ∧ (i' = i → k' ≠ k)) :
    Indexed owns' (removeIf index k i) := by
  intro i' k' hk'
  obtain ⟨hold,hne⟩ := htake i' k' hk'
  exact removeIf_of_ne (h i' k' hold) hne

theorem Indexed.takeAll (h : Indexed owns index) (hnone : ∀ k, ¬owns i k) (ks : List K) :
    Indexed owns (ks.foldl (fun index k => removeIf index k i) index) := by
  induction ks generalizing index with
  | nil => exact h
  | cons k ks ih =>
    apply ih
    apply h.take
    intro i' k' hk'
    refine ⟨hk',?_⟩
    intro heq
    rw [heq] at hk'
    exact absurd hk' (hnone k')

end Landscape.Index
