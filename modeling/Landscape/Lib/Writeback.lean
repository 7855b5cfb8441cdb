import Landscape.Lib.Table

/-! Tasks that change a state first and write the change to a map later.
Each task carries a queue of writes it still has to do. -/
namespace Landscape.Writeback
open Function List
variable {κ β : Type} [DecidableEq κ] {k : κ} {v : Option β}

abbrev Queue (κ β : Type) := List (κ × Option β)

def replay : Queue κ β → (κ → Option β) → κ → Option β
  | [], m => m
  | w :: q, m => replay q (update m w.1 w.2)

def Queue.Touches (q : Queue κ β) (k : κ) : Prop := ∃ w ∈ q, w.1 = k

theorem replay_append (q q' : Queue κ β) (m : κ → Option β) :
    replay (q ++ q') m = replay q' (replay q m) := by
  induction q generalizing m with
  | nil => rfl
  | cons w q ih => exact ih _

theorem replay_of_not_touches {q : Queue κ β} (h : ¬Queue.Touches q k)
    (m : κ → Option β) : replay q m k = m k := by
  induction q generalizing m with
  | nil => rfl
  | cons w q ih =>
    have hne : k ≠ w.1 := fun hk => h ⟨w,mem_cons_self,hk.symm⟩
    have hrest : ¬Queue.Touches q k := fun ⟨x,hx,hk⟩ => h ⟨x,mem_cons_of_mem _ hx,hk⟩
    rw [replay, ih hrest, update_of_ne hne]

theorem replay_congr {q : Queue κ β} {m m' : κ → Option β} (h : m k = m' k) :
    replay q m k = replay q m' k := by
  induction q generalizing m m' with
  | nil => exact h
  | cons w q ih =>
    refine ih ?_
    by_cases hk : k = w.1
    · subst hk
      simp
    · simpa [hk] using h

theorem replay_of_all {q : Queue κ β} (ht : Queue.Touches q k)
    (hall : ∀ w ∈ q, w.1 = k → w.2 = v) (m : κ → Option β) : replay q m k = v := by
  induction q generalizing m with
  | nil =>
    obtain ⟨w,hw,-⟩ := ht
    cases hw
  | cons w q ih =>
    have hrest : ∀ x ∈ q, x.1 = k → x.2 = v := fun x hx => hall x (mem_cons_of_mem _ hx)
    by_cases hq : Queue.Touches q k
    · exact ih hq hrest _
    · have hw : w.1 = k := by
        obtain ⟨x,hx,hk⟩ := ht
        rcases mem_cons.mp hx with rfl | hx
        · exact hk
        · exact absurd ⟨x,hx,hk⟩ hq
      rw [replay, replay_of_not_touches hq, ← hw, update_self]
      exact hall w mem_cons_self hw

/-- No two tasks have writes for one key, and every key is right once the writes queued for it are
done. -/
structure Pending (Right : κ → Option β → Prop) (m : κ → Option β)
    (queues : Nat → Option (Queue κ β)) : Prop where
  alone : ∀ t u q q' k, queues t = some q → queues u = some q' → q.Touches k → q'.Touches k → t = u
  right : ∀ t q k, queues t = some q → q.Touches k → Right k (replay q m k)
  rest : ∀ k, (∀ t q, queues t = some q → ¬q.Touches k) → Right k (m k)

section
variable {Right Right' : κ → Option β → Prop} {m : κ → Option β} {queues : Nat → Option (Queue κ β)}
  {t : Nat} {q : Queue κ β}

omit [DecidableEq κ] in
theorem not_touches_nil : ¬Queue.Touches ([] : Queue κ β) k := by
  rintro ⟨w,hw,-⟩
  cases hw

omit [DecidableEq κ] in
theorem update_queue {u : Nat} {x : Queue κ β} (h : update queues t (some q) u = some x) :
    u = t ∧ x = q ∨ u ≠ t ∧ queues u = some x := by
  rcases Table.update_eq_some h with ⟨hu,⟨⟩⟩ | h
  · exact .inl ⟨hu,rfl⟩
  · exact .inr h

section
variable (h : Pending Right m queues)
include h

theorem Pending.write (ht : queues t = some ((k, v) :: q)) :
    Pending Right (update m k v) (update queues t (some q)) := by
  have hsub : ∀ k', q.Touches k' → Queue.Touches ((k, v) :: q) k' :=
    fun k' ⟨w,hw,hk⟩ => ⟨w,mem_cons_of_mem _ hw,hk⟩
  have hk : Queue.Touches ((k, v) :: q) k := ⟨(k, v),mem_cons_self,rfl⟩
  refine ⟨?_,?_,?_⟩
  · intro u u' x x' k' hu hu' hx hx'
    rcases update_queue hu with ⟨rfl,rfl⟩ | ⟨-,hq⟩ <;>
      rcases update_queue hu' with ⟨rfl,rfl⟩ | ⟨-,hq'⟩
    · rfl
    · exact h.alone _ _ _ _ k' ht hq' (hsub k' hx) hx'
    · exact h.alone _ _ _ _ k' hq ht hx (hsub k' hx')
    · exact h.alone _ _ _ _ k' hq hq' hx hx'
  · intro u x k' hu hx
    rcases update_queue hu with ⟨rfl,rfl⟩ | ⟨hne,hu⟩
    · exact h.right _ _ k' ht (hsub k' hx)
    · have hk' : k' ≠ k := by
        rintro rfl
        exact hne (h.alone _ _ _ _ k' hu ht hx hk)
      rw [replay_congr (update_of_ne hk' v m)]
      exact h.right _ _ k' hu hx
  · intro k' hno
    have hq : ¬q.Touches k' := hno t q (update_self _ _ _)
    by_cases hkk : k' = k
    · subst hkk
      have := h.right t _ k' ht hk
      rwa [replay, replay_of_not_touches hq] at this
    · rw [update_of_ne hkk]
      refine h.rest k' fun u x hu hx => ?_
      by_cases hut : u = t
      · subst hut
        cases ht.symm.trans hu
        obtain ⟨w,hw,hwk⟩ := hx
        rcases mem_cons.mp hw with rfl | hw
        · exact hkk hwk.symm
        · exact hq ⟨w,hw,hwk⟩
      · exact hno u x (by simpa [hut] using hu) hx

theorem Pending.skip (ht : queues t = some ((k, v) :: q)) (hm : m k = v) :
    Pending Right m (update queues t (some q)) := by
  have := h.write ht
  rwa [← hm, update_eq_self] at this

/-- A task that has no writes left changes the state and queues writes or returns: it is the only
one with writes for their keys, and the writes bring the map up to the new state. -/
theorem Pending.change {o : Option (Queue κ β)} (ht : ∀ x, queues t = some x → x = [])
    (halone : ∀ q, o = some q → ∀ k, q.Touches k → ∀ u x, queues u = some x → ¬x.Touches k)
    (hright : ∀ q, o = some q → ∀ k, q.Touches k → Right' k (replay q m k))
    (hrest : ∀ k v, (∀ q, o = some q → ¬q.Touches k) → Right k v → Right' k v) :
    Pending Right' m (update queues t o) := by
  refine ⟨?_,?_,?_⟩
  · intro u u' x x' k hu hu' hx hx'
    rcases Table.update_eq_some hu with ⟨rfl,ho⟩ | ⟨-,hq⟩ <;>
      rcases Table.update_eq_some hu' with ⟨rfl,ho'⟩ | ⟨-,hq'⟩
    · rfl
    · exact absurd hx' (halone x ho k hx _ _ hq')
    · exact absurd hx (halone x' ho' k hx' _ _ hq)
    · exact h.alone _ _ _ _ k hq hq' hx hx'
  · intro u x k hu hx
    rcases Table.update_eq_some hu with ⟨-,ho⟩ | ⟨-,hu⟩
    · exact hright x ho k hx
    · exact hrest k _ (fun q ho hq => halone q ho k hq _ _ hu hx) (h.right _ _ k hu hx)
  · intro k hno
    refine hrest k _ (fun q ho => hno t q (by simp [ho])) (h.rest k fun u x hu hx => ?_)
    by_cases hut : u = t
    · subst hut
      exact not_touches_nil (ht x hu ▸ hx)
    · exact hno u x (by simpa [hut] using hu) hx

theorem Pending.start (ht : queues t = none) : Pending Right m (update queues t (some [])) := by
  refine h.change (by simp [ht]) ?_ ?_ fun _ _ _ h => h <;>
  · rintro _ ⟨⟩ k hk
    exact absurd hk not_touches_nil

theorem Pending.finish (ht : queues t = some []) : Pending Right m (update queues t none) :=
  h.change (by simp [ht]) (by simp) (by simp) fun _ _ _ h => h

theorem Pending.quiet (hno : ∀ t, queues t = none) (k : κ) : Right k (m k) :=
  h.rest k fun t q ht => by simp [hno t] at ht

end

end

end Landscape.Writeback
