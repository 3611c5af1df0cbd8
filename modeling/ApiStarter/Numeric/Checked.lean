import Mathlib.Algebra.Group.Int.Defs
import Mathlib.Data.Int.Order.Basic

/-
  Signed 64-bit arithmetic that fails where the result does not fit.

  An operation is the one on integers followed by `narrow`. Where it succeeds, it is the
  wrapping operation of `Int64`.
-/

namespace ApiStarter.Numeric

/-- The 64-bit number of value `i`, if there is one. -/
def narrow (i : Int) : Option Int64 :=
  if -2 ^ 63 ≤ i ∧ i < 2 ^ 63 then some (Int64.ofInt i) else none

def checkedAdd (a b : Int64) : Option Int64 := narrow (a.toInt + b.toInt)
def checkedSub (a b : Int64) : Option Int64 := narrow (a.toInt - b.toInt)
def checkedMul (a b : Int64) : Option Int64 := narrow (a.toInt * b.toInt)

/-- The quotient fails for a zero divisor, and for the least number by `-1`. -/
def checkedDiv (a b : Int64) : Option Int64 :=
  if b = 0 then none else narrow (a.toInt.tdiv b.toInt)

/-- The remainder fails where the quotient does. -/
def checkedRem (a b : Int64) : Option Int64 := (checkedDiv a b).map fun _ => a % b

theorem narrow_eq_some {i : Int} {n : Int64} : narrow i = some n ↔ n.toInt = i := by
  unfold narrow
  constructor
  · split
    · rintro ⟨⟩
      exact Int64.toInt_ofInt_of_le (by omega) (by omega)
    · intro h
      cases h
  · rintro rfl
    have hlow := n.le_toInt
    have hhigh := n.toInt_lt
    rw [if_pos ⟨hlow, hhigh⟩, Int64.ofInt_toInt]

theorem narrow_isSome {i : Int} : (narrow i).isSome ↔ -2 ^ 63 ≤ i ∧ i < 2 ^ 63 := by
  unfold narrow
  split
  next h => exact ⟨fun _ => h, fun _ => rfl⟩
  next h => exact ⟨fun hsome => (by cases hsome), fun hrange => absurd hrange h⟩

theorem checkedAdd_eq_some {a b n : Int64} :
    checkedAdd a b = some n ↔ n.toInt = a.toInt + b.toInt := narrow_eq_some

theorem checkedSub_eq_some {a b n : Int64} :
    checkedSub a b = some n ↔ n.toInt = a.toInt - b.toInt := narrow_eq_some

theorem checkedMul_eq_some {a b n : Int64} :
    checkedMul a b = some n ↔ n.toInt = a.toInt * b.toInt := narrow_eq_some

theorem eq_add_of_checkedAdd {a b n : Int64} (h : checkedAdd a b = some n) : n = a + b := by
  rw [← Int64.toInt_inj, Int64.toInt_add, ← checkedAdd_eq_some.1 h]
  exact (Int64.toInt_bmod n).symm

theorem eq_sub_of_checkedSub {a b n : Int64} (h : checkedSub a b = some n) : n = a - b := by
  rw [← Int64.toInt_inj, Int64.toInt_sub, ← checkedSub_eq_some.1 h]
  exact (Int64.toInt_bmod n).symm

theorem eq_mul_of_checkedMul {a b n : Int64} (h : checkedMul a b = some n) : n = a * b := by
  rw [← Int64.toInt_inj, Int64.toInt_mul, ← checkedMul_eq_some.1 h]
  exact (Int64.toInt_bmod n).symm

theorem eq_div_of_checkedDiv {a b n : Int64} (h : checkedDiv a b = some n) : n = a / b := by
  unfold checkedDiv at h
  split at h
  · cases h
  · rw [← Int64.toInt_inj, Int64.toInt_div, ← narrow_eq_some.1 h]
    exact (Int64.toInt_bmod n).symm

theorem eq_rem_of_checkedRem {a b n : Int64} (h : checkedRem a b = some n) : n = a % b := by
  obtain ⟨-, -, rfl⟩ := Option.map_eq_some_iff.1 h
  rfl

/-- Dividing by a positive number never fails. -/
theorem checkedDiv_of_pos (a : Int64) {b : Int64} (hb : 0 < b.toInt) :
    checkedDiv a b = some (a / b) := by
  have hzero : b ≠ 0 := by
    rintro rfl
    exact absurd hb (by decide)
  have hminus : b ≠ -1 := by
    rintro rfl
    exact absurd hb (by decide)
  rw [checkedDiv, if_neg hzero, narrow_eq_some, Int64.toInt_div_of_ne_right a b hminus]

theorem checkedRem_of_pos (a : Int64) {b : Int64} (hb : 0 < b.toInt) :
    checkedRem a b = some (a % b) := by
  rw [checkedRem, checkedDiv_of_pos a hb, Option.map_some]

end ApiStarter.Numeric
