import Mathlib.Data.List.Nodup
import Mathlib.Algebra.Group.Nat.Defs

/-! A table of rows with a primary key and a version. A checked write is refused when the
writer has not seen the stored version; a batch is written as a whole or not at all. -/
namespace Landscape.Store
open List Option
variable {κ ρ : Type} [DecidableEq κ]

class Row (κ : outParam Type) (ρ : Type) where
  id : ρ → κ
  updateAt : ρ → Nat
  setUpdateAt : ρ → Nat → ρ
  id_setUpdateAt : ∀ r ts, id (setUpdateAt r ts) = id r
  updateAt_setUpdateAt : ∀ r ts, updateAt (setUpdateAt r ts) = ts

attribute [simp] Row.id_setUpdateAt Row.updateAt_setUpdateAt

structure Change (ρ : Type) where
  old : Option ρ
  new : ρ

variable [Row κ ρ]

def find (rows : List ρ) (id : κ) : Option ρ := rows.find? fun r => Row.id r = id

def nextUpdateAt (old : Option ρ) (now : Nat) : Nat :=
  match old with
  | some r => max now (Row.updateAt r + 1)
  | none => now

def put (rows : List ρ) (r : ρ) : List ρ :=
  if (find rows (Row.id r)).isSome then rows.map fun x => if Row.id x = Row.id r then r else x
  else rows ++ [r]

def checkedUpsert (now : Nat) (rows : List ρ) (r : ρ) : Option (Change ρ × List ρ) :=
  let old := find rows (Row.id r)
  let new := Row.setUpdateAt r (nextUpdateAt old now)
  if old.any fun o => Row.updateAt o ≠ Row.updateAt r then none
  else some (⟨old,new⟩, put rows new)

def checkedUpsertMany (now : Nat) (rows : List ρ) : List ρ → Option (List (Change ρ) × List ρ)
  | [] => some ([], rows)
  | r :: rs => do
    let (c, rows₁) ← checkedUpsert now rows r
    let (cs, rows₂) ← checkedUpsertMany now rows₁ rs
    some (c :: cs, rows₂)

def deleteAndGet (rows : List ρ) (id : κ) : Option ρ × List ρ :=
  (find rows id, rows.filter fun r => Row.id r ≠ id)

def Keyed (rows : List ρ) : Prop := (rows.map (Row.id (κ := κ))).Nodup

variable {rows rows' configs : List ρ} {r : ρ} {now : Nat} {changes : List (Change ρ)} {id : κ}

theorem find_eq_some (h : find rows id = some r) : r ∈ rows ∧ Row.id r = id := by
  refine ⟨mem_of_find?_eq_some h,?_⟩
  simpa using find?_some h

theorem find_eq_none (h : find rows id = none) (hr : r ∈ rows) : Row.id r ≠ id := by
  have := find?_eq_none.mp h r hr
  simpa using this

theorem mem_put {x : ρ} : x ∈ put rows r ↔ x = r ∨ (x ∈ rows ∧ Row.id x ≠ Row.id r) := by
  unfold put
  split
  · rename_i hsome
    obtain ⟨o,ho⟩ := isSome_iff_exists.mp hsome
    obtain ⟨hmem,hid⟩ := find_eq_some ho
    rw [List.mem_map]
    constructor
    · rintro ⟨y,hy,rfl⟩
      split
      · exact .inl rfl
      · rename_i hne
        exact .inr ⟨hy,hne⟩
    · rintro (rfl | ⟨hx,hne⟩)
      · exact ⟨o,hmem,by simp [hid]⟩
      · exact ⟨x,hx,by simp [hne]⟩
  · rename_i hnone
    have hnone' : find rows (Row.id r) = none := by simpa using hnone
    rw [mem_append, mem_singleton]
    constructor
    · rintro (hx | rfl)
      · exact .inr ⟨hx,find_eq_none hnone' hx⟩
      · exact .inl rfl
    · rintro (rfl | ⟨hx,-⟩)
      · exact .inr rfl
      · exact .inl hx

theorem find_put : find (put rows r) id = if Row.id r = id then some r else find rows id := by
  unfold put
  split
  · rename_i hsome
    obtain ⟨o,ho⟩ := isSome_iff_exists.mp hsome
    unfold find at ho ⊢
    have hsame : ((fun x : ρ => decide (Row.id x = id)) ∘
        fun x => if Row.id x = Row.id r then r else x) = fun x => decide (Row.id x = id) := by
      funext x
      by_cases hx : Row.id x = Row.id r <;> simp [hx]
    rw [find?_map, hsame]
    by_cases hid : Row.id r = id
    · subst hid
      have hoid : Row.id o = Row.id r := (find_eq_some ho).2
      rw [ho, if_pos rfl, map_some, if_pos hoid]
    · rw [if_neg hid]
      cases hf : find? (fun x : ρ => decide (Row.id x = id)) rows with
      | none => rfl
      | some y =>
        have hy : Row.id y = id := (find_eq_some hf).2
        rw [map_some, if_neg fun h => hid (h.symm.trans hy)]
  · rename_i hnone
    have hnone' : find rows (Row.id r) = none := by simpa using hnone
    unfold find at hnone' ⊢
    by_cases hid : Row.id r = id
    · subst hid
      simp [hnone']
    · simp [hid]

theorem find_deleteAndGet (id' : κ) :
    find (deleteAndGet rows id).2 id' = if id = id' then none else find rows id' := by
  unfold find deleteAndGet
  rw [find?_filter]
  split
  · rename_i heq
    subst heq
    simp
  · rename_i hne
    congr 1
    funext x
    by_cases hx : Row.id x = id'
    · simp [hx, Ne.symm hne]
    · simp [hx]

theorem keyed_put (h : Keyed rows) : Keyed (put rows r) := by
  unfold Keyed put at *
  split
  · have hids : (rows.map fun x => if Row.id x = Row.id r then r else x).map (Row.id (κ := κ)) =
        rows.map (Row.id (κ := κ)) := by
      rw [List.map_map]
      apply map_congr_left
      intro x _
      by_cases hx : Row.id x = Row.id r <;> simp [hx]
    rw [hids]
    exact h
  · rename_i hnone
    have hnone' : find rows (Row.id r) = none := by simpa using hnone
    rw [map_append]
    refine concat_eq_append ▸ h.concat fun hr => ?_
    obtain ⟨x,hx,hid⟩ := List.mem_map.mp hr
    exact find_eq_none hnone' hx hid

theorem keyed_delete (h : Keyed rows) : Keyed (deleteAndGet rows id).2 :=
  h.sublist ((filter_sublist).map _)

theorem find_of_mem (h : Keyed rows) (hr : r ∈ rows) : find rows (Row.id r) = some r := by
  cases hf : find rows (Row.id r) with
  | none => exact absurd rfl (find_eq_none hf hr)
  | some o =>
    obtain ⟨ho,hid⟩ := find_eq_some hf
    rw [inj_on_of_nodup_map h ho hr hid]

theorem checkedUpsert_eq {c : Change ρ} (h : checkedUpsert now rows r = some (c, rows')) :
    c.old = find rows (Row.id r) ∧ (∃ ts, c.new = Row.setUpdateAt r ts) ∧
    rows' = put rows c.new := by
  unfold checkedUpsert at h
  dsimp only at h
  split at h
  · cases h
  · cases h
    exact ⟨rfl,⟨_,rfl⟩,rfl⟩

theorem checkedUpsertMany_cons
    (h : checkedUpsertMany now rows (r :: configs) = some (changes, rows')) :
    ∃ c rows₁ cs, checkedUpsert now rows r = some (c, rows₁) ∧
      checkedUpsertMany now rows₁ configs = some (cs, rows') ∧ changes = c :: cs := by
  simp only [checkedUpsertMany, bind_eq_bind, bind_eq_some_iff, Prod.exists,
    some.injEq, Prod.mk.injEq] at h
  obtain ⟨c,rows₁,hc,cs,rows₂,hcs,rfl,rfl⟩ := h
  exact ⟨c,rows₁,cs,hc,hcs,rfl⟩

structure Upserted (configs : List ρ) (rows : List ρ) (changes : List (Change ρ)) (rows' : List ρ) :
    Prop where
  source : ∀ c ∈ changes, ∃ r ∈ configs, ∃ ts, c.new = Row.setUpdateAt r ts
  covers : ∀ r ∈ configs, ∃ c ∈ changes, ∃ ts, c.new = Row.setUpdateAt r ts
  back : ∀ x ∈ rows', x ∈ rows ∨ ∃ c ∈ changes, x = c.new
  kept : ∀ x ∈ rows, x ∈ rows' ∨ ∃ c ∈ changes, Row.id c.new = Row.id x

/-- A batch that is written replaces the rows it names and keeps the others. -/
theorem checkedUpsertMany_upserted
    (h : checkedUpsertMany now rows configs = some (changes, rows')) :
    Upserted configs rows changes rows' ∧ (Keyed rows → Keyed rows') := by
  induction configs generalizing rows changes with
  | nil =>
    cases h
    exact ⟨⟨by simp,by simp,fun x hx => .inl hx,fun x hx => .inl hx⟩,id⟩
  | cons r configs ih =>
    obtain ⟨c,rows₁,cs,hc,hcs,rfl⟩ := checkedUpsertMany_cons h
    obtain ⟨-,⟨ts,hnew⟩,rfl⟩ := checkedUpsert_eq hc
    obtain ⟨hup,hkeyed⟩ := ih hcs
    refine ⟨⟨?_,?_,?_,?_⟩,fun hk => hkeyed (keyed_put hk)⟩
    · intro c' hc'
      rcases mem_cons.mp hc' with rfl | hc'
      · exact ⟨r,mem_cons_self,ts,hnew⟩
      · obtain ⟨r',hr',h'⟩ := hup.source c' hc'
        exact ⟨r',mem_cons_of_mem _ hr',h'⟩
    · intro r' hr'
      rcases mem_cons.mp hr' with rfl | hr'
      · exact ⟨c,mem_cons_self,ts,hnew⟩
      · obtain ⟨c',hc',h'⟩ := hup.covers r' hr'
        exact ⟨c',mem_cons_of_mem _ hc',h'⟩
    · intro x hx
      rcases hup.back x hx with hx | ⟨c',hc',rfl⟩
      · rcases mem_put.mp hx with rfl | ⟨hx,-⟩
        · exact .inr ⟨c,mem_cons_self,rfl⟩
        · exact .inl hx
      · exact .inr ⟨c',mem_cons_of_mem _ hc',rfl⟩
    · intro x hx
      by_cases hid : Row.id x = Row.id c.new
      · exact .inr ⟨c,mem_cons_self,hid.symm⟩
      · rcases hup.kept x (mem_put.mpr (.inr ⟨hx,hid⟩)) with hx | ⟨c',hc',h'⟩
        · exact .inl hx
        · exact .inr ⟨c',mem_cons_of_mem _ hc',h'⟩

theorem checkedUpsertMany_map {γ : Type} {g : ρ → γ} (hg : ∀ r ts, g (Row.setUpdateAt r ts) = g r)
    (h : checkedUpsertMany now rows configs = some (changes, rows')) :
    changes.map (fun c => g c.new) = configs.map g := by
  induction configs generalizing rows changes with
  | nil =>
    cases h
    rfl
  | cons r configs ih =>
    obtain ⟨c,rows₁,cs,hc,hcs,rfl⟩ := checkedUpsertMany_cons h
    obtain ⟨-,⟨ts,hnew⟩,-⟩ := checkedUpsert_eq hc
    rw [map_cons, map_cons, ih hcs, hnew, hg]

/-- In a batch that names every row once, each new row is stored in the place of its old one. -/
theorem checkedUpsertMany_replaces (h : checkedUpsertMany now rows configs = some (changes, rows'))
    (hids : (configs.map (Row.id (κ := κ))).Nodup) (hk : Keyed rows) :
    (∀ c ∈ changes, c.new ∈ rows') ∧
    (∀ c ∈ changes, ∀ o, c.old = some o → o ∈ rows ∧ Row.id o = Row.id c.new) ∧
      ∀ x ∈ rows, x ∈ rows' ∨ ∃ c ∈ changes, c.old = some x := by
  induction configs generalizing rows changes with
  | nil =>
    cases h
    simp
  | cons r configs ih =>
    obtain ⟨c,rows₁,cs,hc,hcs,rfl⟩ := checkedUpsertMany_cons h
    obtain ⟨hold,⟨ts,hnew⟩,rfl⟩ := checkedUpsert_eq hc
    rw [map_cons, nodup_cons] at hids
    have hid : Row.id c.new = Row.id r := by rw [hnew, Row.id_setUpdateAt]
    obtain ⟨hnews,holds,hkept⟩ := ih hcs hids.2 (keyed_put hk)
    have hup := (checkedUpsertMany_upserted hcs).1
    -- the other rows of the batch have other keys
    have hother : ∀ c' ∈ cs, Row.id c'.new ≠ Row.id c.new := by
      intro c' hc' heq
      obtain ⟨r',hr',ts',hts'⟩ := hup.source c' hc'
      rw [hts', Row.id_setUpdateAt, hid] at heq
      exact hids.1 (List.mem_map.mpr ⟨r',hr',heq⟩)
    refine ⟨?_,?_,?_⟩
    · intro c' hc'
      rcases mem_cons.mp hc' with rfl | hc'
      · rcases hup.kept c'.new (mem_put.mpr (.inl rfl)) with h | ⟨x,hx,hxid⟩
        · exact h
        · exact absurd hxid (hother x hx)
      · exact hnews c' hc'
    · intro c' hc' o ho
      rcases mem_cons.mp hc' with rfl | hc'
      · obtain ⟨hmem,ho'⟩ := find_eq_some (hold ▸ ho)
        exact ⟨hmem,ho'.trans hid.symm⟩
      · obtain ⟨hput,hoid⟩ := holds c' hc' o ho
        rcases mem_put.mp hput with rfl | ⟨ho',-⟩
        · exact absurd hoid.symm (hother c' hc')
        · exact ⟨ho',hoid⟩
    · intro x hx
      by_cases hxid : Row.id x = Row.id c.new
      · refine .inr ⟨c,mem_cons_self,?_⟩
        rw [hold, ← hid, ← hxid]
        exact find_of_mem hk hx
      · rcases hkept x (mem_put.mpr (.inr ⟨hx,hxid⟩)) with h | ⟨c',hc',h'⟩
        · exact .inl h
        · exact .inr ⟨c',mem_cons_of_mem _ hc',h'⟩

end Landscape.Store
