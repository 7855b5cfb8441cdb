import Landscape.Lib.Apportion
import Landscape.Lib.Table
import Landscape.Route.Types
import Mathlib.Data.UInt

/-! The per-flow WAN target slots (`maps/route/wan.rs`): sixteen slots per flow and family,
filled by smooth weighted round robin. -/
namespace Landscape.Route
open Apportion Function List

def flowTargetSlotCount : Nat := 16

structure TargetInfo where
  ifindex : UInt32
  isDocker : Bool
  gateAddr : IpAddr
  mac : Option MacAddr
  deriving DecidableEq

def RouteTargetInfo.slotValue (t : RouteTargetInfo) : TargetInfo :=
  ⟨t.ifindex,t.isDocker,t.gatewayIp,t.mac⟩

/- One pass over the weights: every score grows by its weight, and the first best one is kept
   together with its index. -/
def scoreTargets : Nat → List UInt32 → List Int → Option (Nat × Int) →
    List Int × Option (Nat × Int)
  | idx, w :: ws, c :: cs, best =>
    if w = 0 then
      let r := scoreTargets (idx + 1) ws cs best
      (c :: r.1, r.2)
    else
      let c' := c + w.toNat
      let r := scoreTargets (idx + 1) ws cs
        (if best.all fun b => b.2 < c' then some (idx, c') else best)
      (c' :: r.1, r.2)
  | _, _, cs, best => (cs, best)

def fillSlots (weights : List UInt32) (total : UInt32) : Nat → List Int → List Nat
  | 0, _ => []
  | n + 1, current =>
    match scoreTargets 0 weights current none with
    | (_, none) => []
    | (scores, some (best, _)) =>
      best :: fillSlots weights total n (scores.modify best (· - total.toNat))

def buildSlotIndices (weights : List UInt32) : List Nat :=
  let totalWeight := weights.sum
  if totalWeight = 0 then []
  else fillSlots weights totalWeight flowTargetSlotCount (weights.map fun _ => 0)

def weightAt (ws : List UInt32) (i : Nat) : Nat := (ws.getD i 0).toNat

def weighted (ws : List UInt32) : Finset Nat := (Finset.range ws.length).filter (weightAt ws · ≠ 0)

abbrev SlotMap := IpFamily → FlowId → Nat → Option TargetInfo

def usableTargets (f : IpFamily) (targets : List (RouteTargetInfo × UInt32)) :
    List (RouteTargetInfo × UInt32) :=
  targets.filter fun t => 0 < t.2 && t.1.gatewayIp.family = f

/-- The batch `replace_wan_route_slots_v4_with_map` and `_v6_with_map` write for the targets that
can take a slot. -/
def updateSlots (f : IpFamily) (flow : FlowId) (filtered : List (RouteTargetInfo × UInt32))
    (m : SlotMap) : SlotMap :=
  let slots := buildSlotIndices (filtered.map (·.2))
  update m f (update (m f) flow fun slot =>
    match slots[slot]? with
    | none => m f flow slot
    | some idx => filtered[idx]?.map fun t => t.1.slotValue)

/- A batch delete stops at the first key that is not there. -/
def deleteSlotKeys : List Nat → (Nat → Option TargetInfo) → Nat → Option TargetInfo
  | [], m => m
  | key :: keys, m => if (m key).isSome then deleteSlotKeys keys (update m key none) else m

def deleteSlots (f : IpFamily) (flow : FlowId) (keys : List Nat) (m : SlotMap) : SlotMap :=
  update m f (update (m f) flow (deleteSlotKeys keys (m f flow)))

variable {slot : Nat} {f : IpFamily} {ws : List UInt32} {targets : List (RouteTargetInfo × UInt32)}
  {f' : IpFamily} {flow flow' : FlowId} {cs : List Int} {total : UInt32} {l : List Nat}

theorem updateSlots_other (m : SlotMap) (h : f' ≠ f ∨ flow' ≠ flow) :
    updateSlots f flow targets m f' flow' = m f' flow' := by
  rw [updateSlots, Table.update_update_apply, if_neg (not_and_or.mpr h)]

theorem deleteSlots_other {keys : List Nat} (m : SlotMap) (h : f' ≠ f ∨ flow' ≠ flow) :
    deleteSlots f flow keys m f' flow' = m f' flow' := by
  rw [deleteSlots, Table.update_update_apply, if_neg (not_and_or.mpr h)]

theorem deleteSlotKeys_missing {m : Nat → Option TargetInfo} (keys : List Nat) (h : m slot = none) :
    deleteSlotKeys keys m slot = none := by
  induction keys generalizing m with
  | nil => exact h
  | cons key keys ih =>
    unfold deleteSlotKeys
    split
    · refine ih ?_
      by_cases hs : slot = key <;> simp [hs, h]
    · exact h

/-- A batch whose keys are all there deletes them all. -/
theorem deleteSlotKeys_found {m : Nat → Option TargetInfo} {keys : List Nat} (hn : keys.Nodup)
    (hall : ∀ key ∈ keys, (m key).isSome) (h : slot ∈ keys) :
    deleteSlotKeys keys m slot = none := by
  induction keys generalizing m with
  | nil => cases h
  | cons key keys ih =>
    obtain ⟨hkey,hn⟩ := nodup_cons.mp hn
    rw [deleteSlotKeys, if_pos (hall key mem_cons_self)]
    rcases mem_cons.mp h with rfl | h
    · exact deleteSlotKeys_missing keys (update_self _ _ _)
    · refine ih hn (fun k hk => ?_) h
      have hne : k ≠ key := ne_of_mem_of_not_mem hk hkey
      rw [update_of_ne hne]
      exact hall k (mem_cons_of_mem _ hk)

theorem deleteSlots_missing {m : SlotMap} (keys : List Nat) (h : m f' flow' slot = none) :
    deleteSlots f flow keys m f' flow' slot = none := by
  rw [deleteSlots, Table.update_update_apply]
  split
  · rename_i hsame
    exact deleteSlotKeys_missing keys (hsame.1 ▸ hsame.2 ▸ h)
  · exact h

theorem deleteSlots_found {m : SlotMap} {keys : List Nat} (hn : keys.Nodup)
    (hall : ∀ key ∈ keys, (m f flow key).isSome) (h : slot ∈ keys) :
    deleteSlots f flow keys m f flow slot = none := by
  rw [deleteSlots, update_self, update_self]
  exact deleteSlotKeys_found hn hall h

theorem updateSlots_single {t : RouteTargetInfo} (m : SlotMap) (h : slot < flowTargetSlotCount) :
    updateSlots f flow [(t, 1)] m f flow slot = some t.slotValue := by
  have hs : buildSlotIndices [1] = replicate flowTargetSlotCount 0 := by decide
  simp [updateSlots, hs, h]

theorem mem_weighted {i : Nat} : i ∈ weighted ws ↔ weightAt ws i ≠ 0 := by
  rw [weighted, Finset.mem_filter, Finset.mem_range, and_iff_right_iff_imp]
  intro h
  by_contra hge
  simp [weightAt, getElem?_eq_none (Nat.le_of_not_lt hge)] at h

theorem scoreTargets_length (idx : Nat) (ws : List UInt32) (cs : List Int)
    (best : Option (Nat × Int)) :
    (scoreTargets idx ws cs best).1.length = cs.length := by
  induction ws generalizing idx cs best with
  | nil => rfl
  | cons w ws ih =>
    cases cs with
    | nil => rfl
    | cons c cs =>
      simp only [scoreTargets]
      split <;> simp [ih]

theorem scoreTargets_fst (idx : Nat) (best : Option (Nat × Int)) (hlen : ws.length = cs.length)
    (k : Nat) :
    (scoreTargets idx ws cs best).1.getD k 0 = cs.getD k 0 + weightAt ws k := by
  induction ws generalizing idx cs best k with
  | nil => simp [scoreTargets, weightAt]
  | cons w ws ih =>
    obtain _ | ⟨c,cs⟩ := cs
    · cases hlen
    · simp only [scoreTargets, weightAt] at ih ⊢
      cases k with
      | zero => split <;> simp_all
      | succ k => split <;> simpa using ih _ _ (Nat.succ.inj hlen) k

theorem scoreTargets_best {idx : Nat} {best : Option (Nat × Int)} {b : Nat × Int}
    (hlen : ws.length = cs.length) (h : (scoreTargets idx ws cs best).2 = some b) :
    (best = some b ∨ ∃ k, b = (idx + k, cs.getD k 0 + weightAt ws k) ∧ weightAt ws k ≠ 0) ∧
      (∀ b' ∈ best, b'.2 ≤ b.2) ∧ ∀ k, weightAt ws k ≠ 0 → cs.getD k 0 + weightAt ws k ≤ b.2 := by
  induction ws generalizing idx cs best with
  | nil =>
    obtain rfl : best = some b := h
    simp [weightAt]
  | cons w ws ih =>
    obtain _ | ⟨c,cs⟩ := cs
    · cases hlen
    · have hlen' := Nat.succ.inj hlen
      simp only [scoreTargets] at h
      split at h
      · rename_i hw
        obtain ⟨hfrom,hbest,hmax⟩ := ih hlen' h
        refine ⟨hfrom.imp_right ?_,hbest,?_⟩
        · rintro ⟨k,rfl,hk⟩
          exact ⟨k + 1,by simp [weightAt]; omega,hk⟩
        · intro k hk
          cases k with
          | zero => simp [weightAt, hw] at hk
          | succ k => exact hmax k hk
      · rename_i hw
        obtain ⟨x,hx,hfromx,hbestx,hcx⟩ :
          ∃ x, (if best.all fun b => b.2 < c + w.toNat then some (idx, c + w.toNat)
            else best) = some x ∧ (best = some x ∨ x = (idx, c + w.toNat)) ∧
              (∀ b' ∈ best, b'.2 ≤ x.2) ∧
              c + w.toNat ≤ x.2 := by
          cases best with
          | none => exact ⟨_,rfl,.inr rfl,nofun,le_rfl⟩
          | some b' =>
            by_cases hlt : b'.2 < c + w.toNat
            · exact ⟨_,by simp [hlt],.inr rfl,by simpa using hlt.le,le_rfl⟩
            · exact ⟨b',by simp [hlt],.inl rfl,by simp,not_lt.mp hlt⟩
        rw [hx] at h
        obtain ⟨hfrom,hbest,hmax⟩ := ih hlen' h
        have hxb := hbest x rfl
        refine ⟨?_,fun b' hb' => (hbestx b' hb').trans hxb,?_⟩
        · obtain hxb | ⟨k,rfl,hk⟩ := hfrom
          · cases hxb
            refine hfromx.imp_right fun hb => ⟨0,by simp [hb, weightAt],?_⟩
            simpa [weightAt, ← UInt32.toNat_inj] using hw
          · exact .inr ⟨k + 1,by simp [weightAt]; omega,hk⟩
        · intro k hk
          cases k with
          | zero => exact hcx.trans hxb
          | succ k => exact hmax k hk

theorem scoreTargets_isSome (idx : Nat) (best : Option (Nat × Int)) (hlen : ws.length = cs.length)
    (hne : best.isSome ∨ ∃ w ∈ ws, w ≠ 0) : (scoreTargets idx ws cs best).2.isSome := by
  induction ws generalizing idx cs best with
  | nil => simpa [scoreTargets] using hne
  | cons w ws ih =>
    obtain _ | ⟨c,cs⟩ := cs
    · cases hlen
    · simp only [scoreTargets]
      split
      · exact ih _ _ (Nat.succ.inj hlen) (by simp_all)
      · refine ih _ _ (Nat.succ.inj hlen) (.inl ?_)
        split
        · rfl
        · cases best <;> simp_all

theorem fillSlots_greedy (hsome : ∃ w ∈ ws, w ≠ 0) (n : Nat)
    (hl : Greedy (weighted ws) total.toNat (weightAt ws) l) (hlen : ws.length = cs.length)
    (hcs : ∀ i, cs.getD i 0 = credit total.toNat (weightAt ws) l i) :
    Greedy (weighted ws) total.toNat (weightAt ws) (l ++ fillSlots ws total n cs) ∧
      (fillSlots ws total n cs).length = n := by
  induction n generalizing l cs with
  | zero => simpa [fillSlots] using hl
  | succ n ih =>
    obtain ⟨b,hb⟩ := Option.isSome_iff_exists.mp (scoreTargets_isSome 0 none hlen (.inr hsome))
    obtain ⟨hnone | ⟨i,rfl,hi⟩,-,hmax⟩ := scoreTargets_best hlen hb
    · cases hnone
    have hmem := mem_weighted.mpr hi
    have hfst := scoreTargets_fst 0 none hlen
    have hlen' := scoreTargets_length 0 ws cs none
    rw [fillSlots]
    generalize scoreTargets 0 ws cs none = r at hb hfst hlen'
    obtain ⟨scores,best⟩ := r
    cases hb
    simp only [hcs, zero_add] at hmax hfst ⊢
    have hturn := hl.turn hmem fun k hk => hmax k (mem_weighted.mp hk)
    have hnext : ∀ k, (scores.modify i (· - total.toNat)).getD k 0 =
        credit total.toNat (weightAt ws) (l ++ [i]) k := by
      intro k
      rw [getD_eq_getElem?_getD, getElem?_modify]
      obtain rfl | hne := eq_or_ne i k
      · have hlt : i < scores.length := by
          rw [hlen', ← hlen]
          exact Finset.mem_range.mp (Finset.mem_filter.mp hmem).1
        have hscore := hfst i
        rw [getD_eq_getElem?_getD, getElem?_eq_getElem hlt, Option.getD_some] at hscore
        simp [credit_self, hlt, hscore]
      · simpa [hne, credit_other hne] using hfst k
    obtain ⟨hgreedy,hlength⟩ := ih hturn (by simp [hlen', hlen]) hnext
    rw [append_assoc] at hgreedy
    exact ⟨hgreedy,by rw [length_cons, hlength]⟩

/-- Every slot is given to a target that is owed most. -/
theorem buildSlotIndices_greedy (hsum : ws.sum ≠ 0) :
    Greedy (weighted ws) ws.sum.toNat (weightAt ws) (buildSlotIndices ws) ∧
      (buildSlotIndices ws).length = flowTargetSlotCount := by
  have hsome : ∃ w ∈ ws, w ≠ 0 := by
    by_contra hno
    exact hsum (sum_eq_zero fun w hw => by_contra fun hne => hno ⟨w,hw,hne⟩)
  have hzero : ∀ i, (ws.map fun _ => (0 : Int)).getD i 0 = credit ws.sum.toNat (weightAt ws)
      [] i := by
    intro i
    by_cases hi : i < ws.length <;> simp [credit, hi]
  rw [buildSlotIndices, if_neg hsum]
  exact fillSlots_greedy hsome flowTargetSlotCount .nil (by simp) hzero

theorem buildSlotIndices_lt {i : Nat} (h : i ∈ buildSlotIndices ws) : i < ws.length := by
  by_cases hsum : ws.sum = 0
  · simp [buildSlotIndices, hsum] at h
  · exact Finset.mem_range.mp (Finset.mem_filter.mp ((buildSlotIndices_greedy hsum).1.mem i h)).1

def Weighted (f : IpFamily) (targets : List (RouteTargetInfo × UInt32)) : Prop :=
  usableTargets f targets = [] ∨ ((usableTargets f targets).map (·.2)).sum ≠ 0

def targetSlots (f : IpFamily) (targets : List (RouteTargetInfo × UInt32)) (slot : Nat) :
    Option TargetInfo :=
  updateSlots f 0 (usableTargets f targets) (fun _ _ _ => none) f 0 slot

theorem buildSlotIndices_length (hw : Weighted f targets) (hne : usableTargets f targets ≠ []) :
    (buildSlotIndices ((usableTargets f targets).map (·.2))).length = flowTargetSlotCount :=
  (buildSlotIndices_greedy (hw.resolve_left hne)).2

theorem targetSlots_eq_none (h : usableTargets f targets = []) :
    targetSlots f targets slot = none := by
  simp [targetSlots, updateSlots, h, buildSlotIndices]

theorem updateSlots_weighted (m : SlotMap)
    (hw : ((usableTargets f targets).map (·.2)).sum ≠ 0) (h : slot < flowTargetSlotCount) :
    updateSlots f flow (usableTargets f targets) m f flow slot = targetSlots f targets slot := by
  have hsome := getElem?_eq_getElem ((buildSlotIndices_greedy hw).2 ▸ h)
  simp only [targetSlots, updateSlots, update_self, hsome]

theorem exists_target_of_targetSlots {v : TargetInfo} (h : targetSlots f targets slot = some v) :
    ∃ t ∈ usableTargets f targets, v = t.1.slotValue := by
  rw [targetSlots, updateSlots, update_self, update_self] at h
  split at h
  · cases h
  · obtain ⟨t,ht,rfl⟩ := Option.map_eq_some_iff.mp h
    exact ⟨t,mem_of_getElem? ht,rfl⟩

theorem targetSlots_isSome (hw : Weighted f targets) (hne : usableTargets f targets ≠ [])
    (hslot : slot < flowTargetSlotCount) : (targetSlots f targets slot).isSome := by
  have hlen := buildSlotIndices_length hw hne
  have hget := getElem?_eq_getElem (hlen ▸ hslot)
  rw [targetSlots, updateSlots, update_self, update_self, hget]
  have hidx : (buildSlotIndices ((usableTargets f targets).map (·.2)))[slot] <
      (usableTargets f targets).length := by
    have hlt := buildSlotIndices_lt (mem_of_getElem? hget)
    rw [length_map] at hlt
    exact hlt
  simp [hidx]

end Landscape.Route
