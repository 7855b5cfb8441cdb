import Landscape.Lib.Store

/-! The writer every configuration table goes through: one transaction reads the old row, checks the
version the client echoes and writes the new row under a version of its own. -/
namespace Landscape.Database
open Store (Row Change find put)

/-- The `f64` nearest to an integer, ties to the even one. -/
def f64OfNat (n : Nat) : Nat :=
  let unit := 2 ^ (n.log2 - 52)
  let q := n / unit
  let r := n % unit
  if 2 * r < unit ∨ (2 * r = unit ∧ q % 2 = 0) then q * unit else (q + 1) * unit

theorem f64OfNat_of_lt {n : Nat} (h : n < 2 ^ 53) : f64OfNat n = n := by
  have hlog : n.log2 - 52 = 0 := by
    by_cases hn : n = 0
    · subst hn
      rfl
    · have := (Nat.log2_lt hn).mpr h
      omega
  simp only [f64OfNat, hlog, Nat.pow_zero, Nat.div_one, Nat.mod_one]
  simp

theorem f64OfNat_two_pow_53 : f64OfNat (2 ^ 53) = 2 ^ 53 := by decide +kernel

/-- Integers are exact up to 2 ^ 53; this is the first one that is not. -/
example : f64OfNat (2 ^ 53 + 1) = 2 ^ 53 := by decide +kernel

def minTsStep : Nat := 1

def getF64Timestamp (nowMs : Nat) : Nat := f64OfNat nowMs

section
variable {κ ρ : Type} [DecidableEq κ] [Row κ ρ]

def nextUpdateAt (r : ρ) (now : Nat) : Nat := max now (f64OfNat (Row.updateAt r + minTsStep))

omit [DecidableEq κ] in
/-- While versions are exact, the next one is above the stored one whatever the clock says. -/
theorem nextUpdateAt_of_lt {r : ρ} (h : Row.updateAt r < 2 ^ 53) (now : Nat) :
    nextUpdateAt r now = max now (Row.updateAt r + 1) := by
  have hstep : f64OfNat (Row.updateAt r + 1) = Row.updateAt r + 1 := by
    rcases Nat.lt_or_ge (Row.updateAt r + 1) (2 ^ 53) with hlt | hge
    · exact f64OfNat_of_lt hlt
    · have heq : Row.updateAt r + 1 = 2 ^ 53 := by omega
      rw [heq]
      exact f64OfNat_two_pow_53
  unfold nextUpdateAt minTsStep
  rw [hstep]

omit [DecidableEq κ] in
theorem lt_nextUpdateAt {r : ρ} (h : Row.updateAt r < 2 ^ 53) (now : Nat) :
    Row.updateAt r < nextUpdateAt r now := by
  rw [nextUpdateAt_of_lt h]
  omega

inductive DbError where
  | conflict
deriving DecidableEq

variable (nowMs : Nat) (rows : List ρ) (config : ρ)

def upsertInner (checked : Bool) : Except DbError (Change ρ × List ρ) :=
  let old := find rows (Row.id config)
  let incomingTs := Row.updateAt config
  let now := getF64Timestamp nowMs
  let newTs := match old with
    | some o => nextUpdateAt o now
    | none => now
  let new := Row.setUpdateAt config newTs
  match old with
  | some o =>
    -- the conditional UPDATE touches no row unless the stored version is the echoed one
    if checked && Row.updateAt o != incomingTs then .error .conflict
    else .ok (⟨some o,new⟩, put rows new)
  | none => .ok (⟨none,new⟩, put rows new)

def upsertManyInner (rows : List ρ) (checked : Bool) :
    List (Nat × ρ) → Except DbError (List (Change ρ) × List ρ)
  | [] => .ok ([], rows)
  | (nowMs, config) :: configs => do
    let (change, rows₁) ← upsertInner nowMs rows config checked
    let (changes, rows₂) ← upsertManyInner rows₁ checked configs
    .ok (change :: changes, rows₂)

/-- A transaction that fails is rolled back. -/
def txnRetryLoop {α : Type} (rows : List ρ) (body : List ρ → Except DbError (α × List ρ)) :
    Except DbError α × List ρ :=
  match body rows with
  | .ok (value, rows') => (.ok value, rows')
  | .error e => (.error e, rows)

def upsert : Except DbError (Change ρ) × List ρ :=
  txnRetryLoop rows fun rows => upsertInner nowMs rows config false

def checkedUpsert : Except DbError (Change ρ) × List ρ :=
  txnRetryLoop rows fun rows => upsertInner nowMs rows config true

def upsertMany (configs : List (Nat × ρ)) : Except DbError (List (Change ρ)) × List ρ :=
  txnRetryLoop rows fun rows => upsertManyInner rows false configs

def checkedUpsertMany (configs : List (Nat × ρ)) : Except DbError (List (Change ρ)) × List ρ :=
  txnRetryLoop rows fun rows => upsertManyInner rows true configs

def deleteAndGet (rows : List ρ) (id : κ) : Except DbError (Option ρ) × List ρ :=
  txnRetryLoop rows fun rows => .ok (Store.deleteAndGet rows id)

variable {rows : List ρ} {config : ρ}

/-- What one written row is: the given one under the clock or above the version it replaces. -/
theorem upsertInner_ok {nowMs : Nat} {rows' : List ρ} {checked : Bool} {change : Change ρ}
    (h : upsertInner nowMs rows config checked = .ok (change, rows')) :
    Row.id change.new = Row.id config ∧ rows' = put rows change.new ∧
      ∀ o, find rows (Row.id config) = some o →
        Row.updateAt change.new = nextUpdateAt o (getF64Timestamp nowMs) := by
  unfold upsertInner at h
  dsimp only at h
  split at h
  · rename_i o ho
    split at h
    · cases h
    · cases h
      refine ⟨Row.id_setUpdateAt _ _,rfl,?_⟩
      intro o' ho'
      cases ho.symm.trans ho'
      exact Row.updateAt_setUpdateAt _ _
  · rename_i hnone
    cases h
    refine ⟨Row.id_setUpdateAt _ _,rfl,?_⟩
    intro o' ho'
    cases hnone.symm.trans ho'

/-- While the clock and the versions are exact, a checked write is the one over plain numbers. -/
theorem upsertInner_eq_checkedUpsert {nowMs : Nat} (hnow : nowMs < 2 ^ 53)
    (hexact : ∀ o, find rows (Row.id config) = some o → Row.updateAt o < 2 ^ 53) :
    upsertInner nowMs rows config true =
      (Store.checkedUpsert nowMs rows config).elim (.error .conflict) .ok := by
  have hclock : getF64Timestamp nowMs = nowMs := f64OfNat_of_lt hnow
  unfold upsertInner Store.checkedUpsert
  rw [hclock]
  cases hf : find rows (Row.id config) with
  | none => rfl
  | some o =>
    by_cases hver : Row.updateAt o = Row.updateAt config
    · simp [Store.nextUpdateAt, nextUpdateAt_of_lt (hexact o hf), hver]
    · simp [hver]

/-- A checked write of a stored row goes by the stored version alone. -/
theorem checkedUpsert_of_stored (nowMs : Nat) {o : ρ} (ho : find rows (Row.id config) = some o) :
    (Row.updateAt o ≠ Row.updateAt config →
        checkedUpsert nowMs rows config = (.error .conflict, rows)) ∧
      (Row.updateAt o = Row.updateAt config →
        ∃ change rows', checkedUpsert nowMs rows config = (.ok change, rows')) := by
  constructor
  · intro hne
    simp [checkedUpsert, txnRetryLoop, upsertInner, ho, hne]
  · intro heq
    simp [checkedUpsert, txnRetryLoop, upsertInner, ho, heq]

/-- A checked write of an absent row is an insert: nothing is compared. -/
theorem checkedUpsert_of_absent (nowMs : Nat) (hnone : find rows (Row.id config) = none) :
    ∃ change rows', checkedUpsert nowMs rows config = (.ok change, rows') := by
  simp [checkedUpsert, txnRetryLoop, upsertInner, hnone]

end
end Landscape.Database
