import Mathlib.Data.List.AList

/-! Finite maps as the code uses them: lookups after a change, and `retain`. -/
namespace Landscape.Table
open List Option AList
variable {κ β : Type} [DecidableEq κ] {k k' : κ} {v : β} {m : AList fun _ : κ => β}
  {f : κ → Option β} {ι γ : Type} {l : List (κ × β)}

theorem update_eq_some {o : Option β} (h : Function.update f k o k' = some v) :
    k' = k ∧ o = some v ∨ k' ≠ k ∧ f k' = some v := by
  by_cases hk : k' = k
  · exact .inl ⟨hk,by simpa [hk] using h⟩
  · exact .inr ⟨hk,by simpa [hk] using h⟩

theorem of_update_none (h : Function.update f k none k' = some v) : k' ≠ k ∧ f k' = some v := by
  rcases update_eq_some h with ⟨-,⟨⟩⟩ | h
  exact h

theorem update_update_apply [DecidableEq ι] (f : ι → κ → γ) (i j : ι) (c : γ) :
    Function.update f i (Function.update (f i) k c) j k' = if j = i ∧ k' = k then
    c else f j k' := by
  by_cases hj : j = i
  · subst hj
    simp [Function.update_apply]
  · simp [hj]

theorem of_update_update_none [DecidableEq ι] {f : ι → κ → Option γ} {i j : ι} {c : γ}
    (h : Function.update f i (Function.update (f i) k none) j k' = some c) :
    f j k' = some c ∧ ¬(j = i ∧ k' = k) := by
  rw [update_update_apply] at h
  split at h
  · cases h
  · exact ⟨h,by assumption⟩

theorem lookup_insert_eq : (m.insert k v).lookup k' = if k' = k then some v else m.lookup k' := by
  by_cases h : k' = k
  · subst h
    simp
  · simp [h, lookup_insert_ne h]

theorem lookup_erase_eq : (m.erase k).lookup k' = if k' = k then none else m.lookup k' := by
  by_cases h : k' = k
  · subst h
    simp
  · simp [h, lookup_erase_ne h]

theorem of_lookup_insert {w : β} (h : (m.insert k v).lookup k' = some w) :
    k' = k ∧ v = w ∨ k' ≠ k ∧ m.lookup k' = some w := by
  rw [lookup_insert_eq] at h
  split at h
  · exact .inl ⟨by assumption,some.inj h⟩
  · exact .inr ⟨by assumption,h⟩

theorem of_lookup_erase (h : (m.erase k).lookup k' = some v) : k' ≠ k ∧ m.lookup k' = some v := by
  rw [lookup_erase_eq] at h
  split at h
  · cases h
  · exact ⟨by assumption,h⟩

theorem mem_of_lookup (h : m.lookup k = some v) : k ∈ m := lookup_isSome.mp (h ▸ rfl)

theorem lookup_of_mem (h : k ∈ m) : ∃ v, m.lookup k = some v :=
  isSome_iff_exists.mp (lookup_isSome.mpr h)

def retain (p : κ → β → Bool) (m : AList fun _ : κ => β) : AList fun _ : κ => β where
  entries := m.entries.filter fun e => p e.1 e.2
  nodupKeys := m.nodupKeys.sublist filter_sublist

theorem lookup_retain (p : κ → β → Bool) : (retain p m).lookup k = (m.lookup k).filter (p k) := by
  apply Option.ext
  intro v
  rw [← mem_def, mem_lookup_iff, filter_eq_some_iff, ← mem_def,
    mem_lookup_iff]
  simp [retain]

theorem mem_retain (p : κ → β → Bool) : k ∈ retain p m ↔ ∃ v, m.lookup k = some v ∧
    p k v = true := by
  rw [← AList.lookup_isSome, lookup_retain, Option.isSome_filter, Option.any_eq_true]

def mapVals (f : β → β) (m : AList fun _ : κ => β) : AList fun _ : κ => β where
  entries := m.entries.map fun e => ⟨e.1,f e.2⟩
  nodupKeys := by
    have hkeys : (m.entries.map fun e => (⟨e.1,f e.2⟩ : (_ : κ) × β)).keys = m.entries.keys := by
      simp [List.keys, Function.comp_def]
    exact (congrArg List.Nodup hkeys).mpr m.nodupKeys

theorem lookup_mapVals (f : β → β) : (mapVals f m).lookup k = (m.lookup k).map f := by
  apply Option.ext
  intro v
  rw [← mem_def, mem_lookup_iff, map_eq_some_iff]
  simp only [← mem_def, mem_lookup_iff, mapVals, List.mem_map]
  constructor
  · rintro ⟨⟨k',v'⟩,hmem,heq⟩
    cases heq
    exact ⟨v',hmem,rfl⟩
  · rintro ⟨v',hmem,rfl⟩
    exact ⟨⟨k,v'⟩,hmem,rfl⟩

theorem mem_mapVals (f : β → β) : k ∈ mapVals f m ↔ k ∈ m := by
  rw [← lookup_isSome, ← lookup_isSome, lookup_mapVals, isSome_map]

def eraseAll (ks : List κ) (m : AList fun _ : κ => β) : AList fun _ : κ => β :=
  ks.foldl (fun m k => m.erase k) m

theorem lookup_eraseAll {ks : List κ} :
    (eraseAll ks m).lookup k = if k ∈ ks then none else m.lookup k := by
  induction ks generalizing m with
  | nil => simp [eraseAll]
  | cons a ks ih =>
    change (eraseAll ks (m.erase a)).lookup k = _
    rw [ih, lookup_erase_eq]
    by_cases hk : k ∈ ks <;> simp [hk]

def insertAll (l : List (κ × β)) (m : AList fun _ : κ => β) : AList fun _ : κ => β :=
  l.foldl (fun m e => m.insert e.1 e.2) m

theorem mem_of_lookup_insertAll (h : (insertAll l m).lookup k = some v) :
    (k, v) ∈ l ∨ m.lookup k = some v := by
  induction l generalizing m with
  | nil => exact .inr h
  | cons e l ih =>
    rcases ih h with hmem | hm
    · exact .inl (mem_cons_of_mem e hmem)
    · rcases of_lookup_insert hm with ⟨hk,hv⟩ | ⟨-,hm⟩
      · exact .inl (mem_cons.mpr (.inl (Prod.ext hk hv.symm)))
      · exact .inr hm

theorem mem_insertAll (h : k ∈ l.map (·.1) ∨ k ∈ m) : k ∈ insertAll l m := by
  induction l generalizing m with
  | nil => exact h.resolve_left (by simp)
  | cons e l ih =>
    refine ih ?_
    rw [mem_insert]
    rcases h with h | h
    · rcases mem_cons.mp h with rfl | h
      · exact .inr (.inl rfl)
      · exact .inl h
    · exact .inr (.inr h)

section Diff
variable (current desired : AList fun _ : κ => β)

-- What has to go, and what has to be written, to make `desired` of `current`.
def deleteKeys : List κ := current.keys.filter fun k => (desired.lookup k).isNone

def upsertEntries [DecidableEq β] : List (κ × β) :=
  (desired.entries.map fun e => (e.1, e.2)).filter fun e => current.lookup e.1 ≠ some e.2

end Diff

end Landscape.Table
