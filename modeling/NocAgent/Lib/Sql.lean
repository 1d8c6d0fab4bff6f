import Mathlib.Data.Option.Basic

/-!
# SQL conditions

Three-valued conditions: `none` is the truth value of a comparison with `NULL`.  A row is selected
when its condition is true, so a condition that is `NULL` counts as false at the top, while its
negation is `NULL` again.

Principal results: `selects_and`, `selects_or` (selection distributes over both connectives,
whatever is `NULL`), `selects_not`, `selects_compare`.
-/

set_option autoImplicit false

namespace Sql

universe u v

variable {α : Type u} {β : Type v}

/-- A truth value. -/
abbrev Truth := Option Bool

/-- The row is selected. -/
def Selects (t : Truth) : Prop := t = some true

instance (t : Truth) : Decidable (Selects t) := inferInstanceAs (Decidable (t = some true))

/-- `a AND b`. -/
def and : Truth → Truth → Truth
  | some false, _ => some false
  | _, some false => some false
  | some true, some true => some true
  | _, _ => none

/-- `a OR b`. -/
def or : Truth → Truth → Truth
  | some true, _ => some true
  | _, some true => some true
  | some false, some false => some false
  | _, _ => none

/-- `NOT a`. -/
def not (a : Truth) : Truth := a.map Bool.not

/-- A comparison of two values, `NULL` when one of them is. -/
def compare (r : α → β → Bool) (a : Option α) (b : Option β) : Truth :=
  a.bind fun x => b.map fun y => r x y

/-- `a = b`. -/
def eq [DecidableEq α] (a b : Option α) : Truth := compare (fun x y => decide (x = y)) a b

/-- `a <> b`. -/
def ne [DecidableEq α] (a b : Option α) : Truth := not (eq a b)

/-- `a IS NULL`. -/
def isNull (a : Option α) : Truth := some a.isNone

/-- `a IS DISTINCT FROM b`. -/
def isDistinctFrom [DecidableEq α] (a b : Option α) : Truth := some (decide (a ≠ b))

/-- `a IN (b, ...)`. -/
def isIn [DecidableEq α] (a : Option α) : List α → Truth
  | [] => some false
  | b :: bs => or (eq a (some b)) (isIn a bs)

/-- `coalesce(a, d)`. -/
def coalesce (a : Option α) (d : α) : Option α := some (a.getD d)

/-- `EXISTS (SELECT 1 FROM (VALUES ...) WHERE c)`: never `NULL`. -/
def exists_ (rows : List α) (c : α → Truth) : Truth := some (rows.any fun row => Selects (c row))

/-! ## Selection -/

@[simp] theorem selects_some (b : Bool) : Selects (some b) ↔ b = true := Option.some_inj

@[simp] theorem not_selects_none : ¬ Selects none := nofun

@[simp] theorem selects_and (a b : Truth) : Selects (and a b) ↔ Selects a ∧ Selects b := by
  rcases a with _ | _ | _ <;> rcases b with _ | _ | _ <;> simp [and]

@[simp] theorem selects_or (a b : Truth) : Selects (or a b) ↔ Selects a ∨ Selects b := by
  rcases a with _ | _ | _ <;> rcases b with _ | _ | _ <;> simp [or]

/-- A negation selects where the condition is false, and not where it is `NULL`. -/
theorem selects_not (a : Truth) : Selects (not a) ↔ a = some false := by
  rcases a with _ | _ | _ <;> simp [not]

@[simp] theorem selects_compare (r : α → β → Bool) (a : Option α) (b : Option β) :
    Selects (compare r a b) ↔ ∃ x ∈ a, ∃ y ∈ b, r x y = true := by
  cases a <;> cases b <;> simp [compare]

/-- A comparison with a value that is there. -/
@[simp] theorem selects_eq [DecidableEq α] (a : Option α) (b : α) :
    Selects (eq a (some b)) ↔ a = some b := by
  cases a <;> simp [eq, compare]

@[simp] theorem selects_ne [DecidableEq α] (a b : Option α) :
    Selects (ne a b) ↔ ∃ x ∈ a, ∃ y ∈ b, x ≠ y := by
  cases a <;> cases b <;> simp [ne, eq, compare, not]

@[simp] theorem selects_isNull (a : Option α) : Selects (isNull a) ↔ a = none := by
  simp [isNull]

@[simp] theorem selects_isDistinctFrom [DecidableEq α] (a b : Option α) :
    Selects (isDistinctFrom a b) ↔ a ≠ b := by
  simp [isDistinctFrom]

@[simp] theorem selects_isIn [DecidableEq α] (a : Option α) : ∀ bs : List α,
    Selects (isIn a bs) ↔ ∃ x ∈ a, x ∈ bs
  | [] => by simp [isIn]
  | b :: bs => by
    rw [isIn, selects_or, selects_isIn a bs, selects_eq]
    cases a <;> simp

theorem or_some (a b : Bool) : or (some a) (some b) = some (a || b) := by
  cases a <;> cases b <;> rfl

/-- A value that is there is in the list or is not. -/
theorem isIn_some [DecidableEq α] (x : α) : ∀ bs : List α,
    isIn (some x) bs = some (decide (x ∈ bs))
  | [] => by simp [isIn]
  | b :: bs => by
    have heq : eq (some x) (some b) = some (decide (x = b)) := rfl
    rw [isIn, heq, isIn_some x bs, or_some]
    simp

@[simp] theorem selects_not_isIn [DecidableEq α] (x : α) (bs : List α) :
    Selects (not (isIn (some x) bs)) ↔ x ∉ bs := by
  simp [selects_not, isIn_some]

@[simp] theorem selects_not_exists (rows : List α) (c : α → Truth) :
    Selects (not (exists_ rows c)) ↔ ∀ row ∈ rows, ¬ Selects (c row) := by
  simp [selects_not, exists_]

end Sql
