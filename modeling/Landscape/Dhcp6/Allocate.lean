import Landscape.Dhcp6.Subnets
import Landscape.Lib.Prefix

/-! The arithmetic of IPv6 subnets. -/
namespace Landscape.Dhcp6
open Lpm BitVec Option

def checkedCombineIpv6PrefixSuffix (prefixIp : Ipv6Addr) (prefixLen : UInt8) (suffix : Ipv6Addr) :
    Option Ipv6Addr :=
  (ipv6PrefixMask prefixLen).map fun mask => (prefixIp &&& mask) ||| (suffix &&& ~~~mask)

def checkedExtractIpv6Suffix (ip : Ipv6Addr) (prefixLen : UInt8) : Option Ipv6Addr :=
  (ipv6PrefixMask prefixLen).map fun mask => ip &&& ~~~mask

def Fits (p s : UInt8) (idx : Nat) : Prop :=
  p.toNat ≤ s.toNat ∧ s.toNat ≤ 128 ∧ idx < 2 ^ (s.toNat - p.toNat)

def subnetAt (ip : Ipv6Addr) (p s : UInt8) (idx : Nat) : Nat :=
  ip.toNat / 2 ^ (128 - p.toNat) * 2 ^ (128 - p.toNat) + idx * 2 ^ (128 - s.toNat)

variable {ip : Ipv6Addr} {p s : UInt8} {idx : Nat}

theorem ipv6PrefixMask_of_le {len : UInt8} (h : len.toNat ≤ 128) :
    ipv6PrefixMask len = some (allOnes 128 <<< (128 - len.toNat)) := by
  rw [ipv6PrefixMask]
  split
  · rename_i hzero
    subst hzero
    decide
  · exact if_pos h

theorem Fits.pow_eq (h : Fits p s idx) :
    2 ^ (128 - p.toNat) = 2 ^ (s.toNat - p.toNat) * 2 ^ (128 - s.toNat) := by
  obtain ⟨hps,hs,-⟩ := h
  rw [← Nat.pow_add, show s.toNat - p.toNat + (128 - s.toNat) = 128 - p.toNat by omega]

theorem Fits.toNat_base (h : Fits p s idx) :
    (ip &&& (allOnes 128 <<< (128 - p.toNat)) &&& (allOnes 128 <<< (128 - s.toNat))).toNat =
      ip.toNat / 2 ^ (128 - p.toNat) * 2 ^ (128 - p.toNat) := by
  rw [toNat_and_mask, toNat_and_mask, h.pow_eq, ← Nat.mul_assoc,
    Nat.mul_div_cancel _ (Nat.two_pow_pos _)]

theorem Fits.subnetAt_eq (h : Fits p s idx) : subnetAt ip p s idx =
    (ip.toNat / 2 ^ (128 - p.toNat) * 2 ^ (s.toNat - p.toNat) + idx) * 2 ^ (128 - s.toNat) := by
  rw [subnetAt, h.pow_eq, Nat.add_mul, Nat.mul_assoc]

/- The last address of the subnet is an address. -/
theorem Fits.subnetAt_le (h : Fits p s idx) (ip : Ipv6Addr) :
    subnetAt ip p s idx + 2 ^ (128 - s.toNat) ≤ 2 ^ 128 := by
  have hdiv : ip.toNat / 2 ^ (128 - p.toNat) < 2 ^ p.toNat := by
    rw [Nat.div_lt_iff_lt_mul (Nat.two_pow_pos _), ← Nat.pow_add,
      Nat.add_sub_cancel' (Nat.le_trans h.1 h.2.1)]
    exact ip.isLt
  calc subnetAt ip p s idx + 2 ^ (128 - s.toNat)
      = ip.toNat / 2 ^ (128 - p.toNat) * 2 ^ (128 - p.toNat) + (idx + 1) * 2 ^ (128 - s.toNat) := by
        rw [subnetAt, Nat.add_assoc, Nat.add_mul, Nat.one_mul]
    _ ≤ ip.toNat / 2 ^ (128 - p.toNat) * 2 ^ (128 - p.toNat) + 2 ^ (128 - p.toNat) := by
        rw [h.pow_eq]
        exact Nat.add_le_add_left (Nat.mul_le_mul_right _ h.2.2) _
    _ ≤ 2 ^ p.toNat * 2 ^ (128 - p.toNat) := by
        rw [← Nat.succ_mul]
        exact Nat.mul_le_mul_right _ hdiv
    _ = 2 ^ 128 := by rw [← Nat.pow_add, Nat.add_sub_cancel' (Nat.le_trans h.1 h.2.1)]

/- The router has the first address after the network's own, if there is one. -/
theorem Fits.last_lt (h : Fits p s idx) : (if s = 128 then 0 else 1) < 2 ^ (128 - s.toNat) := by
  split
  · exact Nat.two_pow_pos _
  · rename_i hne
    have hle := h.2.1
    have hlt : s.toNat ≠ 128 := fun h128 => hne (UInt8.toNat_inj.mp h128)
    exact Nat.one_lt_two_pow (by omega)

theorem checkedAllocateSubnet_of_fits (h : Fits p s idx) (ip : Ipv6Addr) :
    checkedAllocateSubnet ip p s idx =
    some (.ofNat 128 (subnetAt ip p s idx), .ofNat 128 (subnetAt ip p s idx + if s = 128 then
      0 else 1)) := by
  have hle := h.subnetAt_le ip
  obtain ⟨hps,hs,hidx⟩ := id h
  have hlens : ¬(p > 128 ∨ s > 128 ∨ s < p) := by
    have h128 : (128 : UInt8).toNat = 128 := rfl
    simp only [gt_iff_lt, UInt8.lt_iff_toNat_lt]
    omega
  have hpos := Nat.two_pow_pos (128 - s.toNat)
  have hmul : checkedMul idx (2 ^ (128 - s.toNat)) = some (idx * 2 ^ (128 - s.toNat)) :=
    if_pos (by rw [subnetAt] at hle; omega)
  have hadd : checkedAdd (ip.toNat / 2 ^ (128 - p.toNat) * 2 ^ (128 - p.toNat))
    (idx * 2 ^ (128 - s.toNat)) =
      some (subnetAt ip p s idx) := if_pos (by rw [subnetAt] at hle; omega)
  have hzero : s = 0 → ip.toNat / 2 ^ (128 - p.toNat) * 2 ^ (128 - p.toNat) =
      subnetAt ip p s idx := by
    rintro rfl
    obtain rfl : idx = 0 := by simpa using hidx
    simp [subnetAt]
  have hrouter : s ≠ 128 → checkedAdd (subnetAt ip p s idx) 1 = some (subnetAt ip p s idx + 1) := by
    intro hne
    have hlast := h.last_lt
    rw [if_neg hne] at hlast
    exact if_pos (by omega)
  rw [checkedAllocateSubnet, if_neg hlens, if_neg (by omega), ipv6PrefixMask_of_le (by omega),
    ipv6PrefixMask_of_le hs]
  simp only [bind_eq_bind, bind_some, h.toNat_base, hmul, hadd]
  by_cases h128 : s = 128
  · simp [h128]
  · simp only [if_neg h128, hrouter h128, bind_some]
    split
    · rename_i h0
      rw [hzero h0, hrouter h128]
      rfl
    · rfl

theorem checkedAllocateSubnet_isSome : (checkedAllocateSubnet ip p s idx).isSome ↔
    Fits p s idx := by
  constructor
  · intro h
    obtain ⟨r,h⟩ := isSome_iff_exists.mp h
    obtain ⟨hlens,h⟩ := ite_none_left_eq_some.mp h
    obtain ⟨hidx,h⟩ := ite_none_left_eq_some.mp h
    have h128 : (128 : UInt8).toNat = 128 := rfl
    simp only [gt_iff_lt, UInt8.lt_iff_toNat_lt] at hlens
    refine ⟨by omega,by omega,?_⟩
    by_cases hbits : s.toNat - p.toNat < 128
    · omega
    · -- the subnets are the addresses, and a product that is none of them is caught
      obtain ⟨mask,-,h⟩ := bind_eq_some_iff.mp h
      obtain ⟨mask',-,h⟩ := bind_eq_some_iff.mp h
      have hs : s.toNat = 128 := by omega
      rw [if_neg (fun h0 => by simp [h0] at hs)] at h
      obtain ⟨offset,hoffset,-⟩ := bind_eq_some_iff.mp h
      obtain ⟨hlt,-⟩ := ite_none_right_eq_some.mp hoffset
      rw [hs, Nat.sub_self, Nat.pow_zero, Nat.mul_one] at hlt
      rwa [show s.toNat - p.toNat = 128 by omega]
  · intro h
    rw [checkedAllocateSubnet_of_fits h]
    rfl

theorem div_of_checkedAllocateSubnet {net router : Ipv6Addr}
    (h : checkedAllocateSubnet ip p s idx = some (net, router)) :
    Fits p s idx ∧ net.toNat = subnetAt ip p s idx ∧ net.toNat / 2 ^ (128 - s.toNat) =
        ip.toNat / 2 ^ (128 - p.toNat) * 2 ^ (s.toNat - p.toNat) + idx ∧
      router.toNat / 2 ^ (128 - s.toNat) = net.toNat / 2 ^ (128 - s.toNat) := by
  have hfits : Fits p s idx := checkedAllocateSubnet_isSome.mp (by rw [h]; rfl)
  have hle := hfits.subnetAt_le ip
  have hpos := Nat.two_pow_pos (128 - s.toNat)
  have hlast := hfits.last_lt
  rw [checkedAllocateSubnet_of_fits hfits] at h
  obtain ⟨rfl,rfl⟩ := Prod.mk.inj (some.inj h)
  rw [toNat_ofNat, toNat_ofNat, Nat.mod_eq_of_lt (by omega), Nat.mod_eq_of_lt (by omega)]
  refine ⟨hfits,rfl,?_,?_⟩
  · rw [hfits.subnetAt_eq, Nat.mul_div_cancel _ hpos]
  · rw [hfits.subnetAt_eq, Nat.mul_div_cancel _ hpos, Nat.mul_comm, Nat.mul_add_div hpos,
      Nat.div_eq_of_lt hlast, Nat.add_zero]

/-- A subnet is a block of its parent that no other index gives; an address is put together from the
prefix of one address and the suffix of another. -/
theorem subnet_arithmetic (ip : Ipv6Addr) (p s : UInt8) (idx : Nat) :
    ((checkedAllocateSubnet ip p s idx).isSome ↔
        p.toNat ≤ s.toNat ∧ s.toNat ≤ 128 ∧ idx < 2 ^ (s.toNat - p.toNat)) ∧
      (∀ net router, checkedAllocateSubnet ip p s idx = some (net, router) →
        2 ^ (128 - s.toNat) ∣ net.toNat ∧
        (Net.around s.toNat net).Contains router ∧ ∀ a, (Net.around s.toNat net).Contains a →
          (Net.around p.toNat ip).Contains a ∧
            ∀ idx' net' router', checkedAllocateSubnet ip p s idx' = some (net', router') →
              idx' ≠ idx → ¬(Net.around s.toNat net').Contains a) ∧
      ∀ a len, len.toNat ≤ 128 → ∃ suffix b, checkedExtractIpv6Suffix a len = some suffix ∧
        checkedCombineIpv6PrefixSuffix ip len suffix = some b ∧
        (Net.around len.toNat ip).Contains b ∧
          ∀ i < 128 - len.toNat, b.getLsbD i = a.getLsbD i := by
  refine ⟨checkedAllocateSubnet_isSome,?_,?_⟩
  · intro net router halloc
    obtain ⟨hfits,hnet,hdiv,hrouter⟩ := div_of_checkedAllocateSubnet halloc
    refine ⟨?_,contains_around_iff.mpr hrouter,?_⟩
    · rw [hnet, hfits.subnetAt_eq]
      exact Nat.dvd_mul_left _ _
    · intro a ha
      have hblock := (contains_around_iff.mp ha).trans hdiv
      refine ⟨contains_around_iff.mpr ?_,?_⟩
      · rw [hfits.pow_eq, Nat.mul_comm, ← Nat.div_div_eq_div_mul, hblock, Nat.mul_comm,
          Nat.mul_add_div (Nat.two_pow_pos _), Nat.div_eq_of_lt hfits.2.2,
            Nat.mul_comm, ← hfits.pow_eq, Nat.add_zero]
      · intro idx' net' router' halloc' hne ha'
        obtain ⟨-,-,hdiv',-⟩ := div_of_checkedAllocateSubnet halloc'
        have hblock' := (contains_around_iff.mp ha').trans hdiv'
        omega
  · intro a len hlen
    have hmask := ipv6PrefixMask_of_le hlen
    refine ⟨_,_,congrArg (Option.map _) hmask,congrArg (Option.map _) hmask,?_,?_⟩
    · rw [Net.Contains, Net.around]
      ext i hi
      by_cases hlt : 128 - len.toNat + i < 128
      · have hge : ¬128 - len.toNat + i < 128 - len.toNat := by omega
        simp [hge, hlt, -reduceAllOnes]
      · simp [hlt, getLsbD_of_ge ip _ (Nat.le_of_not_lt hlt), -reduceAllOnes]
    · intro i hi
      have hlt : i < 128 := by omega
      simp [hi, hlt, -reduceAllOnes]

end Landscape.Dhcp6
