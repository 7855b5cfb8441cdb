import Mathlib.Data.Nat.ModEq
import Mathlib.Tactic.Ring

/-! Byte buffers with big-endian fields: a field is read back as it was stored,
and a store leaves every field that it does not overlap alone. -/
namespace Landscape.Bytes

/-- A buffer of `len` bytes. Reads beyond `len` are the reader's mistake, not an error. -/
structure Buf where
  len : Nat
  byte : Nat → UInt8

variable (b : Buf)

namespace Buf

def ofList (bs : List UInt8) : Buf := ⟨bs.length,fun i => bs.getD i 0⟩

def load (b : Buf) (off : Nat) : Nat → Nat
  | 0 => 0
  | n + 1 => b.load off n * 256 + (b.byte (off + n)).toNat

def store (off n v : Nat) : Buf where
  len := b.len
  byte i := if off ≤ i ∧ i < off + n then UInt8.ofNat (v / 256 ^ (off + n - 1 - i)) else b.byte i

variable {off off' : Nat} {n v i : Nat}

theorem store_byte_of_lt (h : i < off) : (b.store off n v).byte i = b.byte i := by
  simp only [store, ite_eq_right_iff]
  omega

theorem store_byte_of_le (h : off + n ≤ i) : (b.store off n v).byte i = b.byte i := by
  simp only [store, ite_eq_right_iff]
  omega

theorem load_store_initial (n v k : Nat) (hk : k ≤ n) :
    (b.store off n v).load off k = v / 256 ^ (n - k) % 256 ^ k := by
  induction k with
  | zero => simp [load, Nat.mod_one]
  | succ k ih =>
    have hbyte : ((b.store off n v).byte (off + k)).toNat = v / 256 ^ (n - (k + 1)) % 256 := by
      have hin : off ≤ off + k ∧ off + k < off + n := by omega
      have hexp : off + n - 1 - (off + k) = n - (k + 1) := by omega
      simp [store, hin, hexp]
    have hdiv : v / 256 ^ (n - k) = v / 256 ^ (n - (k + 1)) / 256 := by
      rw [Nat.div_div_eq_div_mul, ← pow_succ]
      congr 2
      omega
    rw [load, ih (by omega), hbyte, hdiv, pow_succ, mul_comm (256 ^ k) 256, Nat.mod_mul]
    ring

theorem load_store_same (hv : v < 256 ^ n) : (b.store off n v).load off n = v := by
  rw [load_store_initial b n v n le_rfl]
  simp [Nat.mod_eq_of_lt hv]

theorem load_store_disjoint (k : Nat) (h : off' + k ≤ off ∨ off + n ≤ off') :
    (b.store off n v).load off' k = b.load off' k := by
  induction k with
  | zero => rfl
  | succ k ih =>
    have hb : (b.store off n v).byte (off' + k) = b.byte (off' + k) := by
      rcases h with h | h
      · exact store_byte_of_lt b (by omega)
      · exact store_byte_of_le b (by omega)
    rw [load, load, ih (by omega), hb]

def u8 (off : Nat) : UInt8 := b.byte off
def be16 (off : Nat) : UInt16 := UInt16.ofNat (b.load off 2)
def be32 (off : Nat) : UInt32 := UInt32.ofNat (b.load off 4)
def be64 (off : Nat) : BitVec 64 := BitVec.ofNat 64 (b.load off 8)
def setBe16 (off : Nat) (v : UInt16) : Buf := b.store off 2 v.toNat
def setBe32 (off : Nat) (v : UInt32) : Buf := b.store off 4 v.toNat
def setBe64 (off : Nat) (v : BitVec 64) : Buf := b.store off 8 v.toNat

theorem be16_setBe16 (off : Nat) (v : UInt16) : (b.setBe16 off v).be16 off = v := by
  simp only [be16, setBe16]
  rw [load_store_same b (by simpa using v.toNat_lt)]
  exact UInt16.ofNat_toNat

theorem be32_setBe32 (off : Nat) (v : UInt32) : (b.setBe32 off v).be32 off = v := by
  simp only [be32, setBe32]
  rw [load_store_same b (by simpa using v.toNat_lt)]
  exact UInt32.ofNat_toNat

theorem be64_setBe64 (off : Nat) (v : BitVec 64) : (b.setBe64 off v).be64 off = v := by
  simp only [be64, setBe64]
  rw [load_store_same b (by simpa using v.isLt)]
  exact BitVec.eq_of_toNat_eq (by simp)

theorem be32_setBe16_of_disjoint (v : UInt16) (h : off' + 4 ≤ off ∨ off + 2 ≤ off') :
    (b.setBe16 off v).be32 off' = b.be32 off' := by
  rw [be32, setBe16, load_store_disjoint b 4 h, be32]

theorem be32_setBe32_of_disjoint (v : UInt32) (h : off' + 4 ≤ off ∨ off + 4 ≤ off') :
    (b.setBe32 off v).be32 off' = b.be32 off' := by
  rw [be32, setBe32, load_store_disjoint b 4 h, be32]

theorem be64_setBe64_of_disjoint (v : BitVec 64) (h : off' + 8 ≤ off ∨ off + 8 ≤ off') :
    (b.setBe64 off v).be64 off' = b.be64 off' := by
  rw [be64, setBe64, load_store_disjoint b 8 h, be64]

structure SameBut (P : Nat → Prop) (b b' : Buf) : Prop where
  len : b'.len = b.len
  byte : ∀ i, ¬P i → b'.byte i = b.byte i

section
variable {P : Nat → Prop} {b b' : Buf}

theorem SameBut.refl (P : Nat → Prop) (b : Buf) : SameBut P b b := ⟨rfl,fun _ _ => rfl⟩

variable {off : Nat}

theorem SameBut.setBe16 (h : SameBut P b b') (v : UInt16) (hP : ∀ i, off ≤ i → i < off + 2 → P i) :
    SameBut P b (b'.setBe16 off v) := by
  constructor
  · exact h.len
  · intro i hi
    have hout : i < off ∨ off + 2 ≤ i := by
      by_contra hin
      exact hi (hP i (by omega) (by omega))
    rw [← h.byte i hi]
    rcases hout with hlt | hle
    · exact store_byte_of_lt b' hlt
    · exact store_byte_of_le b' hle

theorem SameBut.load (h : SameBut P b b') {k : Nat} (hP : ∀ i, off ≤ i → i < off + k → ¬P i) :
    b'.load off k = b.load off k := by
  induction k with
  | zero => rfl
  | succ k ih =>
    rw [Buf.load, Buf.load, ih (fun i hle hlt => hP i hle (by omega)),
      h.byte _ (hP _ (by omega) (by omega))]

theorem SameBut.be16 (h : SameBut P b b') (hP : ∀ i, off ≤ i → i < off + 2 → ¬P i) :
    b'.be16 off = b.be16 off := by
  rw [Buf.be16, h.load hP, Buf.be16]

theorem SameBut.be32 (h : SameBut P b b') (hP : ∀ i, off ≤ i → i < off + 4 → ¬P i) :
    b'.be32 off = b.be32 off := by
  rw [Buf.be32, h.load hP, Buf.be32]

theorem SameBut.be64 (h : SameBut P b b') (hP : ∀ i, off ≤ i → i < off + 8 → ¬P i) :
    b'.be64 off = b.be64 off := by
  rw [Buf.be64, h.load hP, Buf.be64]

/-- A sequence of writes goes through and leaves everything but `P` alone. -/
def Writes (P : Nat → Prop) (b : Buf) (r : Option Buf) : Prop := ∃ b', r = some b' ∧ SameBut P b b'

theorem Writes.bind {r : Option Buf} {f : Buf → Option Buf} (h : Writes P b r)
    (hf : ∀ b', SameBut P b b' → Writes P b (f b')) : Writes P b (r.bind f) := by
  obtain ⟨b',rfl,hb⟩ := h
  exact hf b' hb

end

end Buf

end Landscape.Bytes
