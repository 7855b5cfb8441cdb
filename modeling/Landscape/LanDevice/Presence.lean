import Mathlib.Data.List.Induction

/-! The liveness trail of a device: one bit for each ARP scan interval, in a ring of 24. -/
namespace Landscape.LanDevice

structure ArpPresence where
  lastBucket : Nat
  bits : BitVec 32

def msToBucket (interval : Nat) (nowMs : Int) : Nat := min nowMs.toNat (UInt64.size - 1) / interval

def slotBit (bucket : Nat) : BitVec 32 := 1#32 <<< (bucket % 24)

def ArpPresence.markSeen (interval : Nat) (p : ArpPresence) (nowMs : Int) : ArpPresence :=
  let bucket := msToBucket interval nowMs
  if bucket ≤ p.lastBucket then { p with bits := p.bits ||| slotBit p.lastBucket }
  else
    let delta := bucket - p.lastBucket
    let kept := if 24 ≤ delta then 0
      else
        (List.range delta).foldl (fun bits k => bits &&& ~~~slotBit (bucket % 24 + 24 - k)) p.bits
    ⟨bucket,kept ||| slotBit bucket⟩

def ArpPresence.series (interval : Nat) (p : ArpPresence) (nowMs : Int) : List Bool :=
  (List.range 24).reverse.map fun k =>
    let bucket := msToBucket interval nowMs - k
    bucket ≤ p.lastBucket && p.lastBucket - bucket < 24 && p.lastBucket != 0 &&
      p.bits &&& slotBit bucket != 0

def ArpPresence.seenAt (interval : Nat) (times : List Int) : ArpPresence :=
  times.foldl (markSeen interval) ⟨0,0⟩

def seenBuckets (interval : Nat) (times : List Int) : List Nat :=
  times.foldl (fun seen t => max (seen.headD 0) (msToBucket interval t) :: seen) []

structure ArpPresence.Holds (p : ArpPresence) (seen : List Nat) : Prop where
  newest : seen.headD 0 = p.lastBucket
  le : ∀ b ∈ seen, b ≤ p.lastBucket
  bits : ∀ b ≤ p.lastBucket, p.lastBucket < b + 24 → (p.bits.getLsbD (b % 24) = true ↔ b ∈ seen)

variable {interval : Nat} {p : ArpPresence} {seen : List Nat}

theorem getLsbD_slotBit (n b : Nat) : (slotBit n).getLsbD (b % 24) = decide (b % 24 = n % 24) := by
  simp only [slotBit, BitVec.getLsbD_shiftLeft, BitVec.getLsbD_one]
  grind

theorem and_slotBit (bits : BitVec 32) (b : Nat) :
    (bits &&& slotBit b != 0) = bits.getLsbD (b % 24) := by
  have hne : slotBit b ≠ 0#32 := by
    intro h
    have hbit := getLsbD_slotBit b b
    simp [h] at hbit
  have hand : bits &&& slotBit b = if bits.getLsbD (b % 24) then slotBit b else 0#32 := by
    rw [slotBit, ← BitVec.twoPow_eq, BitVec.and_twoPow]
  rw [hand]
  cases bits.getLsbD (b % 24) <;> simp [hne]

theorem getLsbD_cleared (bits : BitVec 32) (b n delta : Nat) :
    ((List.range delta).foldl (fun bits k => bits &&& ~~~slotBit (n % 24 + 24 - k)) bits).getLsbD
    (b % 24) = true ↔
      bits.getLsbD (b % 24) = true ∧ ∀ k < delta, b % 24 ≠ (n % 24 + 24 - k) % 24 := by
  induction delta with
  | zero => simp
  | succ delta ih =>
    have hlt : b % 24 < 32 := by omega
    rw [List.range_succ, List.foldl_append, List.foldl_cons, List.foldl_nil, BitVec.getLsbD_and,
      Bool.and_eq_true, ih, BitVec.getLsbD_not, getLsbD_slotBit]
    simp only [hlt, decide_true, Bool.true_and, Bool.not_eq_true', decide_eq_false_iff_not,
      Nat.forall_lt_succ_right, and_assoc, ne_eq]

theorem ArpPresence.Holds.markSeen (h : p.Holds seen) (t : Int) :
    (p.markSeen interval t).Holds (max (seen.headD 0) (msToBucket interval t) :: seen) := by
  unfold ArpPresence.markSeen
  dsimp only
  rw [h.newest]
  generalize msToBucket interval t = b
  split
  · rename_i hle
    rw [Nat.max_eq_left hle]
    refine ⟨rfl,by simpa using h.le,?_⟩
    intro b' hle' hlt
    have hold := h.bits b' hle' hlt
    simp only [BitVec.getLsbD_or, getLsbD_slotBit, Bool.or_eq_true, decide_eq_true_eq, hold,
      List.mem_cons] at hle' hlt ⊢
    have hmod : b' % 24 = p.lastBucket % 24 ↔ b' = p.lastBucket := by omega
    rw [hmod, or_comm]
  · rename_i hlt
    rw [Nat.max_eq_right (by omega)]
    refine ⟨rfl,by simpa using fun b' hb' => Nat.le_trans (h.le b' hb') (by omega),?_⟩
    intro b' hle' hlt'
    dsimp only at hle' hlt' ⊢
    have hmod : b' % 24 = b % 24 ↔ b' = b := by omega
    rw [BitVec.getLsbD_or, Bool.or_eq_true, getLsbD_slotBit, decide_eq_true_eq, hmod, List.mem_cons,
      or_comm]
    refine or_congr_right ?_
    split
    · -- the whole window has passed
      have hnew : b' ∉ seen := fun hb' => by have := h.le b' hb'; omega
      simp [hnew]
    · rw [getLsbD_cleared]
      by_cases hold : b' ≤ p.lastBucket
      · rw [h.bits b' hold (by omega)]
        exact and_iff_left fun k hk => by omega
      · have hnew : b' ∉ seen := fun hb' => hold (h.le b' hb')
        simp only [hnew, iff_false, not_and]
        exact fun _ hall => hall (b - b') (by omega) (by omega)

theorem holds_seenBuckets (interval : Nat) (times : List Int) :
    (ArpPresence.seenAt interval times).Holds (seenBuckets interval times) := by
  unfold ArpPresence.seenAt seenBuckets
  induction times using List.reverseRec with
  | nil => exact ⟨rfl,by simp,by simp⟩
  | append_singleton times t ih =>
    rw [List.foldl_append, List.foldl_append]
    exact ih.markSeen t

/-- Entry `23 - k` of the trail says whether the bucket `k` intervals ago was seen, unless that is
24 buckets older than the newest one. -/
theorem series_eq_seen (interval : Nat) (times : List Int) (nowMs : Int) :
    (ArpPresence.seenAt interval times).series interval nowMs = (List.range 24).reverse.map fun k =>
      let newest := (seenBuckets interval times).headD 0
      let bucket := msToBucket interval nowMs - k
      decide (newest ≠ 0 ∧ bucket ∈ seenBuckets interval times ∧ newest < bucket + 24) := by
  have h := holds_seenBuckets interval times
  refine List.map_congr_left fun k _ => ?_
  rw [Bool.eq_iff_iff]
  simp only [h.newest, and_slotBit, Bool.and_eq_true, decide_eq_true_eq, bne_iff_ne]
  constructor
  · rintro ⟨⟨⟨hle,hlt⟩,hne⟩,hbit⟩
    exact ⟨hne,(h.bits _ hle (by omega)).mp hbit,by omega⟩
  · rintro ⟨hne,hmem,hlt⟩
    have hle := h.le _ hmem
    exact ⟨⟨⟨hle,by omega⟩,hne⟩,(h.bits _ hle hlt).mpr hmem⟩

end Landscape.LanDevice
