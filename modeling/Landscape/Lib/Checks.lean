import Mathlib.Algebra.Group.Nat.Defs

/-! Validators: one check after another, the first that fails decides. -/
namespace Landscape.Checks
variable {ε α : Type} {check : α → Except ε Unit} {l : List α}

def reject (p : Prop) [Decidable p] (e : ε) : Except ε Unit := if p then .error e else .ok ()

@[simp] theorem reject_eq_ok {p : Prop} [Decidable p] {e : ε} : reject p e = .ok () ↔ ¬p := by
  unfold reject
  split <;> simp [*]

def ifSome (o : Option α) (check : α → Except ε Unit) : Except ε Unit :=
  match o with
  | some a => check a
  | none => .ok ()

@[simp] theorem ifSome_eq_ok {o : Option α} :
    ifSome o check = .ok () ↔ ∀ a, o = some a → check a = .ok () := by
  cases o <;> simp [ifSome]

@[simp] theorem andThen_eq_ok {x : Except ε Unit} {f : Unit → Except ε Unit} :
    (x >>= f) = .ok () ↔ x = .ok () ∧ f () = .ok () := by
  cases x <;> simp [bind, Except.bind]

theorem bind_eq_ok {β : Type} {x : Except ε α} {f : α → Except ε β} {b : β} :
    (x >>= f) = .ok b ↔ ∃ a, x = .ok a ∧ f a = .ok b := by
  cases x <;> simp [bind, Except.bind]

def checkAll (l : List α) (check : α → Except ε Unit) : Except ε Unit :=
  match l with
  | [] => .ok ()
  | a :: l => check a >>= fun _ => checkAll l check

@[simp] theorem checkAll_eq_ok :
    checkAll l check = .ok () ↔ ∀ a ∈ l, check a = .ok () := by
  induction l with
  | nil => simp [checkAll]
  | cons a l ih => simp [checkAll, ih]

def checkPairs (l : List α) (check : α → α → Except ε Unit) : Except ε Unit :=
  match l with
  | [] => .ok ()
  | a :: l => checkAll l (check a) >>= fun _ => checkPairs l check

@[simp] theorem checkPairs_eq_ok {check : α → α → Except ε Unit} :
    checkPairs l check = .ok () ↔ l.Pairwise fun a b => check a b = .ok () := by
  induction l with
  | nil => simp [checkPairs]
  | cons a l ih => simp [checkPairs, ih]

end Landscape.Checks
