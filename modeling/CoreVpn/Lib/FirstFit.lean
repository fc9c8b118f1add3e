import Mathlib.Data.List.Basic

/-!
# First-fit scans over an interval

`firstFit free start count` is the loop
`for n in start..start + count { if free(n) { return Some(n) } }; None`:
the first number of the interval that `free` accepts. It finds the least accepted
number of the interval (`firstFit_eq_some_iff`), and nothing exactly when the
interval holds no accepted number (`firstFit_eq_none_iff`).
-/

namespace FirstFit

set_option autoImplicit false

def firstFit (free : Nat → Bool) (start count : Nat) : Option Nat :=
  (List.range' start count).find? free

variable (free : Nat → Bool)

@[simp] theorem firstFit_zero (start : Nat) : firstFit free start 0 = none := rfl

theorem firstFit_succ (start count : Nat) :
    firstFit free start (count + 1) =
      if free start then some start else firstFit free (start + 1) count := by
  simp only [firstFit, List.range'_succ, List.find?_cons]
  cases free start <;> rfl

theorem firstFit_eq_some_iff (start count n : Nat) :
    firstFit free start count = some n ↔
      start ≤ n ∧ n < start + count ∧ free n = true ∧
        ∀ m, start ≤ m → m < n → free m = false := by
  induction count generalizing start with
  | zero =>
      simp only [firstFit_zero, reduceCtorEq, false_iff, not_and]
      intro low high
      omega
  | succ count ih =>
      rw [firstFit_succ]
      by_cases accepted : free start
      · simp only [accepted, if_true, Option.some.injEq]
        constructor
        · rintro rfl
          exact ⟨Nat.le_refl start, by omega, accepted, fun m low high => absurd high (by omega)⟩
        · rintro ⟨low, -, -, before⟩
          by_contra different
          have refused := before start (Nat.le_refl start) (by omega)
          rw [accepted] at refused
          exact Bool.noConfusion refused
      · simp only [accepted, Bool.false_eq_true, if_false, ih]
        constructor
        · rintro ⟨low, high, found, before⟩
          refine ⟨by omega, by omega, found, fun m low' high' => ?_⟩
          rcases Nat.eq_or_lt_of_le low' with rfl | later
          · simpa using accepted
          · exact before m later high'
        · rintro ⟨low, high, found, before⟩
          have moved : n ≠ start := fun same => accepted (same ▸ found)
          exact ⟨by omega, by omega, found, fun m low' high' => before m (by omega) high'⟩

theorem firstFit_eq_none_iff (start count : Nat) :
    firstFit free start count = none ↔ ∀ m, start ≤ m → m < start + count → free m = false := by
  simp only [firstFit, List.find?_eq_none, List.mem_range'_1, Bool.not_eq_true, and_imp]

end FirstFit
