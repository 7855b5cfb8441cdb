import Mathlib.Algebra.Order.BigOperators.Group.List
import Mathlib.Algebra.Order.Ring.Nat
import Mathlib.Data.List.Induction
import Mathlib.Data.List.Nodup

/-! Lists of rows under keys: aggregates that are made on first use, and tables in which the first
row under a key stays. -/
namespace Landscape.Ledger
open List

def asI64 (n : Nat) : Int := (n : Int).bmod (2 ^ 64)

theorem asI64_of_lt {n : Nat} (h : n < 2 ^ 63) : asI64 n = n :=
  Int.bmod_eq_of_le (by omega) (by omega)

variable {κ ρ : Type} [DecidableEq κ] (key : ρ → κ) {rs : List ρ} {M : Type}

def entry (k : κ) (fresh : ρ) (f : ρ → ρ) : List ρ → List ρ
  | [] => [f fresh]
  | r :: rs => if key r = k then f r :: rs else r :: entry k fresh f rs

def insertNew (rows : List ρ) (r : ρ) : List ρ :=
  if key r ∈ rows.map key then rows else rows ++ [r]

def insertAll (rows rs : List ρ) : List ρ := rs.foldl (insertNew key) rows

def tally {α : Type} (keyOf : α → κ) (fresh : κ → ρ) (f : ρ → α → ρ) (xs : List α) : List ρ :=
  xs.foldl (fun rs x => entry key (keyOf x) (fresh (keyOf x)) (f · x) rs) []

section Entry
variable {key} {k : κ} {fresh : ρ} {f : ρ → ρ} (hfresh : key fresh = k)
  (hf : ∀ r, key (f r) = key r)
include hfresh hf

theorem keys_entry (rs : List ρ) : (entry key k fresh f rs).map key =
      if k ∈ rs.map key then rs.map key else rs.map key ++ [k] := by
  induction rs with
  | nil => simp [entry, hf, hfresh]
  | cons r rs ih =>
    unfold entry
    split
    · rename_i hr
      simp [hr, hf]
    · rename_i hr
      have hr' : k ≠ key r := fun h => hr h.symm
      rw [map_cons, ih]
      split
      · rename_i hmem
        simp [hmem]
      · rename_i hmem
        simp [hmem, hr']

theorem nodup_entry (h : (rs.map key).Nodup) : ((entry key k fresh f rs).map key).Nodup := by
  rw [keys_entry hfresh hf]
  split
  · exact h
  · rename_i hmem
    exact concat_eq_append ▸ h.concat hmem

theorem find_entry (rs : List ρ) (k' : κ) : (entry key k fresh f rs).find? (fun r => key r = k') =
      if k = k' then some (f ((rs.find? fun r => key r = k).getD fresh))
      else rs.find? fun r => key r = k' := by
  induction rs with
  | nil =>
    by_cases hk : k = k' <;> simp [entry, hf, hfresh, hk]
  | cons r rs ih =>
    unfold entry
    by_cases hr : key r = k
    · by_cases hk : k = k' <;> simp [hr, hf, hk]
    · rw [if_neg hr, find?_cons, find?_cons, find?_cons, ih]
      by_cases hk : k = k'
      · subst hk
        simp [hr]
      · simp [hk]

end Entry

theorem sum_entry [AddCommMonoid M] {key : ρ → κ} {k : κ} {fresh : ρ} {f : ρ → ρ}
    {w : ρ → M} {d : M} (hfresh : w (f fresh) = d)
    (hw : ∀ r, key r = k → w (f r) = w r + d) (rs : List ρ) :
    ((entry key k fresh f rs).map w).sum = (rs.map w).sum + d := by
  induction rs with
  | nil => simp [entry, hfresh]
  | cons r rs ih =>
    unfold entry
    split
    · rename_i hr
      rw [map_cons, map_cons, sum_cons, sum_cons, hw r hr, add_right_comm]
    · rw [map_cons, map_cons, sum_cons, sum_cons, ih, add_assoc]

section Tally
variable {α : Type} {key} {keyOf : α → κ} {fresh : κ → ρ} {f : ρ → α → ρ}

theorem tally_concat (xs : List α) (x : α) : tally key keyOf fresh f (xs ++ [x]) =
    entry key (keyOf x) (fresh (keyOf x)) (f · x) (tally key keyOf fresh f xs) :=
  foldl_concat ..

theorem sum_tally [AddCommMonoid M] {w : ρ → M} {u : α → M}
    (hfresh : ∀ x, w (f (fresh (keyOf x)) x) = u x)
    (hw : ∀ r x, key r = keyOf x → w (f r x) = w r + u x) (xs : List α) :
    ((tally key keyOf fresh f xs).map w).sum = (xs.map u).sum := by
  induction xs using reverseRec with
  | nil => rfl
  | append_singleton xs x ih =>
    rw [tally_concat, sum_entry (hfresh x) fun r => hw r x, ih, map_append, sum_append,
      map_singleton, sum_singleton]

variable (hfresh : ∀ k, key (fresh k) = k) (hf : ∀ r x, key (f r x) = key r)
include hfresh hf

theorem nodup_tally (xs : List α) : ((tally key keyOf fresh f xs).map key).Nodup := by
  induction xs using reverseRec with
  | nil => exact nodup_nil
  | append_singleton xs x ih =>
    rw [tally_concat]
    exact nodup_entry (hfresh _) (hf · x) ih

theorem find_tally (xs : List α) (k : κ) : (tally key keyOf fresh f xs).find? (fun r => key r = k) =
      if (xs.filter fun x => keyOf x = k) = [] then none
      else some ((xs.filter fun x => keyOf x = k).foldl f (fresh k)) := by
  induction xs using reverseRec with
  | nil => rfl
  | append_singleton xs x ih =>
    rw [tally_concat, find_entry (hfresh _) (hf · x), filter_append]
    by_cases hx : keyOf x = k
    · subst hx
      by_cases hnil : (xs.filter fun y => keyOf y = keyOf x) = [] <;> simp [ih, hnil]
    · simp [ih, hx]

theorem mem_tally {xs : List α} {r : ρ} :
    r ∈ tally key keyOf fresh f xs ↔ (∃ x ∈ xs, keyOf x = key r) ∧
      r = (xs.filter fun x => keyOf x = key r).foldl f (fresh (key r)) := by
  have hfind : (tally key keyOf fresh f xs).find? (fun r' => key r' = key r) = _ :=
    find_tally hfresh hf xs (key r)
  have hnil : (xs.filter fun x => keyOf x = key r) = [] ↔ ¬∃ x ∈ xs, keyOf x = key r := by
    simp [filter_eq_nil_iff]
  constructor
  · intro hr
    cases hf' : (tally key keyOf fresh f xs).find? fun r' => key r' = key r with
    | none => exact absurd (by simp) (find?_eq_none.mp hf' r hr)
    | some r' =>
      -- no two rows have the same key
      have hkey : key r' = key r := by simpa using find?_some hf'
      have heq : r' = r := inj_on_of_nodup_map (nodup_tally hfresh hf xs)
        (mem_of_find?_eq_some hf') hr hkey
      rw [hf'] at hfind
      split at hfind
      · cases hfind
      · rename_i hne
        refine ⟨not_not.mp fun h => hne (hnil.mpr h),?_⟩
        rw [← heq, hkey]
        exact Option.some.inj hfind
  · rintro ⟨hex,heq⟩
    rw [if_neg fun h => hnil.mp h hex, ← heq] at hfind
    exact mem_of_find?_eq_some hfind

end Tally

variable {key} {rows : List ρ}

theorem nodup_insertNew (h : (rows.map key).Nodup) (r : ρ) :
    ((insertNew key rows r).map key).Nodup := by
  unfold insertNew
  split
  · exact h
  · rename_i hmem
    rw [map_append]
    exact concat_eq_append ▸ h.concat hmem

theorem insertAll_concat (r : ρ) :
    insertAll key rows (rs ++ [r]) = insertNew key (insertAll key rows rs) r :=
  foldl_concat ..

theorem nodup_insertAll (h : (rows.map key).Nodup) : ((insertAll key rows rs).map key).Nodup := by
  induction rs generalizing rows with
  | nil => exact h
  | cons r rs ih => exact ih (nodup_insertNew h r)

theorem insertAll_append (rs' : List ρ) :
    insertAll key rows (rs ++ rs') = insertAll key (insertAll key rows rs) rs' :=
  foldl_append

theorem insertAll_sublist (rows rs : List ρ) : (insertAll key rows rs).Sublist (rows ++ rs) := by
  induction rs using reverseRec with
  | nil => simp [insertAll]
  | append_singleton rs r ih =>
    rw [insertAll_concat, ← append_assoc, insertNew]
    split
    · exact ih.trans (sublist_append_left _ _)
    · exact ih.append_right [r]

theorem mem_of_mem_insertAll {x : ρ} (h : x ∈ insertAll key [] rs) : x ∈ rs :=
  (insertAll_sublist [] rs).subset h

theorem insertAll_eq_iff : insertAll key [] rs = rs ↔ (rs.map key).Nodup := by
  constructor
  · intro h
    have hn : ((insertAll key [] rs).map key).Nodup := nodup_insertAll (by simp)
    rwa [h] at hn
  · intro hn
    induction rs using reverseRec with
    | nil => rfl
    | append_singleton rs r ih =>
      -- the rows that are already there have other keys
      rw [map_append, nodup_append'] at hn
      have hnew : key r ∉ rs.map key := by simpa using hn.2.2
      rw [insertAll_concat, ih hn.1, insertNew, if_neg hnew]

theorem filter_insertAll {sel : ρ → Bool}
    (hsel : ∀ r ∈ rows ++ rs, ∀ r' ∈ rows ++ rs, key r = key r' → sel r = sel r') :
    (insertAll key rows rs).filter sel = insertAll key (rows.filter sel) (rs.filter sel) := by
  induction rs using reverseRec with
  | nil => rfl
  | append_singleton rs r ih =>
    have hrows {x : ρ} (hx : x ∈ insertAll key rows rs) : x ∈ rows ++ (rs ++ [r]) := by
      rw [← append_assoc]
      exact mem_append_left _ ((insertAll_sublist rows rs).subset hx)
    have hrest := ih fun x hx y hy => hsel x (by grind) y (by grind)
    rw [insertAll_concat, filter_append]
    cases hr : sel r with
    | true =>
      have hiff : key r ∈ ((insertAll key rows rs).filter sel).map key ↔
          key r ∈ (insertAll key rows rs).map key := by
        simp only [mem_map, mem_filter]
        constructor
        · rintro ⟨x,⟨hx,-⟩,hkey⟩
          exact ⟨x,hx,hkey⟩
        · rintro ⟨x,hx,hkey⟩
          exact ⟨x,⟨hx,(hsel x (hrows hx) r (by simp) hkey).trans hr⟩,hkey⟩
      rw [filter_singleton, hr, cond_true, insertAll_concat, ← hrest, insertNew, insertNew,
        if_congr hiff rfl rfl]
      split
      · rfl
      · simp [hr]
    | false =>
      rw [filter_singleton, hr, cond_false, append_nil, ← hrest, insertNew]
      split
      · rfl
      · simp [hr]

theorem find_insertAll (k : κ) :
    (insertAll key rows rs).find? (fun r => key r = k) = (rows ++ rs).find? fun r => key r = k := by
  induction rs using reverseRec with
  | nil => simp [insertAll]
  | append_singleton rs r ih =>
    rw [insertAll_concat, ← append_assoc, find?_append, ← ih, insertNew]
    split
    · rename_i hmem
      cases hf : (insertAll key rows rs).find? fun r => key r = k with
      | some x => rfl
      | none =>
        have hr : key r ≠ k := by
          intro heq
          obtain ⟨x,hx,hkey⟩ := mem_map.mp hmem
          have := find?_eq_none.mp hf x hx
          exact this (by simpa using hkey.trans heq)
        simp [hr]
    · exact find?_append

theorem sum_filter_map {α : Type} [AddCommMonoid M] (p : α → Bool) (g : α → M) (l : List α) :
    ((l.filter p).map g).sum = (l.map fun x => if p x then g x else 0).sum := by
  induction l with
  | nil => rfl
  | cons x l ih =>
    by_cases hx : p x = true <;> simp [hx, ih]

/-- Rows that all weigh something: a part that weighs as much as the whole is the whole. -/
theorem eq_of_sublist_of_sum {w : ρ → Nat} {part whole : List ρ} (h : part.Sublist whole)
    (hpos : ∀ r ∈ whole, 0 < w r) (hsum : (part.map w).sum = (whole.map w).sum) : part = whole := by
  induction h with
  | slnil => rfl
  | @cons part whole r hsub ih =>
    have hle : (part.map w).sum ≤ (whole.map w).sum :=
      (hsub.map w).sum_le_sum fun _ _ => Nat.zero_le _
    have hr := hpos r mem_cons_self
    rw [map_cons, sum_cons] at hsum
    omega
  | @cons_cons part whole r hsub ih =>
    rw [map_cons, map_cons, sum_cons, sum_cons] at hsum
    rw [ih (fun x hx => hpos x (mem_cons_of_mem _ hx)) (by omega)]

end Landscape.Ledger
