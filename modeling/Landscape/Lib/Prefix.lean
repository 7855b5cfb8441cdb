import Mathlib.Algebra.Group.Nat.Defs

/-! Networks of `w`-bit addresses: a length and the leading bits, as a longest-prefix-match map
keys its entries. -/
namespace Landscape.Lpm
open BitVec
variable {w len : Nat} {a b : BitVec w} {s : Nat} {β : Type}

/-- A network: its length and its leading bits, moved to the low end. -/
structure Net (w : Nat) where
  len : Nat
  bits : BitVec w
  deriving DecidableEq

def Net.around (len : Nat) (a : BitVec w) : Net w := ⟨len,a >>> (w - len)⟩

def Net.Contains (n : Net w) (a : BitVec w) : Prop := a >>> (w - n.len) = n.bits

instance (n : Net w) (a : BitVec w) : Decidable (n.Contains a) :=
  inferInstanceAs (Decidable (a >>> (w - n.len) = n.bits))

theorem around_eq_iff : Net.around len a = Net.around len b ↔
    a >>> (w - len) = b >>> (w - len) := by
  simp [Net.around]

theorem and_mask_eq_iff :
    a &&& (allOnes w <<< s) = b &&& (allOnes w <<< s) ↔ a >>> s = b >>> s := by
  constructor
  · intro h
    ext i hi
    have hbit := congrArg (fun x => x.getLsbD (s + i)) h
    rw [← getLsbD_eq_getElem, ← getLsbD_eq_getElem, getLsbD_ushiftRight,
      getLsbD_ushiftRight]
    by_cases hw : s + i < w
    · have hs : ¬s + i < s := by omega
      simpa [hw, hs, hi] using hbit
    · rw [getLsbD_of_ge _ _ (by omega), getLsbD_of_ge _ _ (by omega)]
  · intro h
    ext i hi
    by_cases hs : i < s
    · simp [hs]
    · have hbit := congrArg (fun x => x.getLsbD (i - s)) h
      simp only [getLsbD_ushiftRight] at hbit
      rw [show s + (i - s) = i by omega] at hbit
      simp [hs, ← getLsbD_eq_getElem, hbit]

theorem around_zero : Net.around 0 a = Net.around 0 b := by
  rw [around_eq_iff]
  ext i hi
  simp only [getElem_ushiftRight]
  rw [getLsbD_of_ge _ _ (by omega), getLsbD_of_ge _ _ (by omega)]

theorem toNat_and_mask : (a &&& (allOnes w <<< s)).toNat = a.toNat / 2 ^ s * 2 ^ s := by
  have hbits : a &&& (allOnes w <<< s) = (a >>> s) <<< s := by
    ext i hi
    simp only [getElem_and, getElem_shiftLeft, getElem_allOnes]
    by_cases h : i < s
    · simp [h]
    · simp [h, show s + (i - s) = i by omega, ← getLsbD_eq_getElem]
  rw [hbits, toNat_shiftLeft, toNat_ushiftRight, Nat.shiftRight_eq_div_pow, Nat.shiftLeft_eq]
  exact Nat.mod_eq_of_lt (Nat.lt_of_le_of_lt (Nat.div_mul_le_self _ _) a.isLt)

theorem toNat_or_shiftLeft {t i : Nat} (net : BitVec w) (hnet : 2 ^ t ∣ net.toNat)
    (hi : i * 2 ^ s < 2 ^ t) (ht : t ≤ w) :
    (net ||| (BitVec.ofNat w i <<< s)).toNat = net.toNat + i * 2 ^ s := by
  have hw : i * 2 ^ s < 2 ^ w := Nat.lt_of_lt_of_le hi (Nat.pow_le_pow_right (by decide) ht)
  have hiw : i < 2 ^ w := Nat.lt_of_le_of_lt (Nat.le_mul_of_pos_right i (Nat.two_pow_pos s)) hw
  obtain ⟨n,hn⟩ := hnet
  rw [toNat_or, toNat_shiftLeft, toNat_ofNat, Nat.mod_eq_of_lt hiw, Nat.shiftLeft_eq,
    Nat.mod_eq_of_lt hw, hn, Nat.two_pow_add_eq_or_of_lt hi]

theorem contains_around_iff : (Net.around len b).Contains a ↔
    a.toNat / 2 ^ (w - len) = b.toNat / 2 ^ (w - len) := by
  unfold Net.Contains Net.around
  rw [← toNat_inj, toNat_ushiftRight, toNat_ushiftRight, Nat.shiftRight_eq_div_pow,
    Nat.shiftRight_eq_div_pow]

theorem contains_around_iff_of_dvd (hb : 2 ^ (w - len) ∣ b.toNat) : (Net.around len b).Contains a ↔
    b.toNat ≤ a.toNat ∧ a.toNat < b.toNat + 2 ^ (w - len) := by
  obtain ⟨n,hn⟩ := hb
  have hpos := Nat.two_pow_pos (w - len)
  rw [contains_around_iff, hn, Nat.mul_div_cancel_left _ hpos, Nat.div_eq_iff hpos]
  rw [Nat.mul_comm n]
  omega

/-! Tries. -/

/-- `bpf_map_lookup_elem` on a trie: the entry of the longest network of at most `len` bits around
the key. -/
def lookupBits {β : Type} (m : Net w → Option β) : Nat → BitVec w → Option β
  | 0, bits => m ⟨0,bits⟩
  | len + 1, bits => (m ⟨len + 1,bits⟩).or (lookupBits m len (bits >>> 1))

def lookup {β : Type} (m : Net w → Option β) (n : Net w) : Option β := lookupBits m n.len n.bits

theorem lookup_of_some {m : Net w → Option β} {n : Net w} {v : β} (h : m n = some v) :
    lookup m n = some v := by
  obtain ⟨len,bits⟩ := n
  cases len <;> simp [lookup, lookupBits, h]

theorem shiftRight_up (h : len < w) : a >>> (w - (len + 1)) >>> 1 = a >>> (w - len) := by
  rw [← shiftRight_add]
  congr 1
  omega

theorem lookup_around_of_longest {m : Net w → Option β} {n : Net w} {v : β} (hn : n.len ≤ w)
    (hc : n.Contains a) (hv : m n = some v)
    (hmax : ∀ n' : Net w, n'.len ≤ w → n'.Contains a → n.len < n'.len → m n' = none) :
    lookup m (Net.around w a) = some v := by
  have hupto : ∀ len, n.len ≤ len → len ≤ w → lookupBits m len (a >>> (w - len)) = some v := by
    intro len hlen
    induction hlen with
    | refl =>
      intro _
      rw [show a >>> (w - n.len) = n.bits from hc]
      exact lookup_of_some hv
    | @step len hlen ih =>
      intro hw
      rw [lookupBits, hmax ⟨len + 1,a >>> (w - (len + 1))⟩ hw rfl (Nat.lt_succ_of_le hlen),
        Option.none_or, shiftRight_up hw, ih (Nat.le_of_lt hw)]
  exact hupto w hn (Nat.le_refl w)

theorem lookup_around_isSome {m : Net w → Option β} :
    (lookup m (Net.around w a)).isSome = true ↔ ∃ n : Net w, n.len ≤ w ∧ (m n).isSome = true ∧
    n.Contains a := by
  have hupto : ∀ len, len ≤ w → ((lookupBits m len (a >>> (w - len))).isSome = true ↔
      ∃ n : Net w, n.len ≤ len ∧ (m n).isSome = true ∧ n.Contains a) := by
    intro len
    induction len with
    | zero =>
      intro _
      constructor
      · intro h
        exact ⟨⟨0,a >>> (w - 0)⟩,Nat.le_refl _,h,rfl⟩
      · rintro ⟨⟨k,bits⟩,hk,hm,hc⟩
        obtain rfl : k = 0 := by simpa using hk
        obtain rfl : a >>> (w - 0) = bits := hc
        exact hm
    | succ len ih =>
      intro hlen
      rw [lookupBits, shiftRight_up hlen, Option.isSome_or, Bool.or_eq_true, ih (by omega)]
      constructor
      · rintro (h | ⟨n,hn,h⟩)
        · exact ⟨⟨len + 1,a >>> (w - (len + 1))⟩,Nat.le_refl _,h,rfl⟩
        · exact ⟨n,by omega,h⟩
      · rintro ⟨⟨k,bits⟩,hk,hm,hc⟩
        rcases Nat.lt_or_ge k (len + 1) with hlt | hge
        · exact .inr ⟨⟨k,bits⟩,by simpa using Nat.le_of_lt_succ hlt,hm,hc⟩
        · obtain rfl : k = len + 1 := by simpa using Nat.le_antisymm hk hge
          obtain rfl : a >>> (w - (len + 1)) = bits := hc
          exact .inl hm
  exact hupto w (Nat.le_refl w)

end Landscape.Lpm
