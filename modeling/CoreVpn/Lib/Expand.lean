import Mathlib.Data.Vector.Basic
import Mathlib.Data.List.Infix

/-!
# Expansion by a stream of blocks

An expansion function such as TLS's `P_hash` defines an infinite stream
`block 0 ++ block 1 ++ ...` of fixed-size blocks and returns its first `n` items.
An implementation computes whole blocks until it has at least `n` items and then
truncates. `blocks block count` is what it holds after `count` blocks, and its first
`n` items are the stream's first `n` items as soon as the blocks cover them
(`take_blocks`), however many blocks were computed. Prefixes of the stream nest
(`streamPrefix_isPrefix_of_le`).
-/

namespace Expand

set_option autoImplicit false

variable {α : Type} {k : Nat}

def blocks (block : Nat → List.Vector α k) (count : Nat) : List α :=
  (List.range count).flatMap fun i => (block i).toList

def stream (block : Nat → List.Vector α k) (positive : 0 < k) (i : Nat) : α :=
  (block (i / k)).get ⟨i % k, Nat.mod_lt i positive⟩

def streamPrefix (block : Nat → List.Vector α k) (positive : 0 < k) (n : Nat) : List α :=
  List.ofFn fun i : Fin n => stream block positive i

variable (block : Nat → List.Vector α k)

@[simp] theorem blocks_zero : blocks block 0 = [] := rfl

theorem blocks_succ (count : Nat) : blocks block (count + 1) = blocks block count ++ (block count).toList := by
  rw [blocks, List.range_succ, List.flatMap_append, List.flatMap_singleton]
  rfl

@[simp] theorem length_blocks (count : Nat) : (blocks block count).length = count * k := by
  induction count with
  | zero => simp
  | succ count ih => rw [blocks_succ, List.length_append, ih, List.Vector.toList_length, Nat.succ_mul]

variable (positive : 0 < k)

theorem getElem_blocks (count i : Nat) (inside : i < (blocks block count).length) :
    (blocks block count)[i] = stream block positive i := by
  induction count with
  | zero => simp at inside
  | succ count ih =>
      simp only [blocks_succ]
      by_cases earlier : i < count * k
      · rw [List.getElem_append_left (by simpa using earlier)]
        exact ih (by simpa using earlier)
      · -- the item lies in the last block, at offset `i % k`
        have within : i < (count + 1) * k := by simpa using inside
        have index : i / k = count := Nat.div_eq_of_lt_le (by omega) within
        have offset : i % k = i - count * k := by
          rw [Nat.mod_eq_sub_mul_div, Nat.mul_comm k, index]
        rw [List.getElem_append_right (by simpa using earlier), stream, List.Vector.get_eq_get_toList]
        simp only [List.get_eq_getElem, Fin.val_cast, length_blocks, index, offset]

theorem take_blocks (count n : Nat) (covered : n ≤ count * k) :
    (blocks block count).take n = streamPrefix block positive n := by
  apply List.ext_getElem
  · simp [streamPrefix, covered]
  · intro i inTake inPrefix
    have inside : i < (blocks block count).length := by
      rw [List.length_take] at inTake
      omega
    rw [List.getElem_take, getElem_blocks block positive count i inside]
    simp only [streamPrefix, List.getElem_ofFn]

theorem streamPrefix_isPrefix_of_le {n m : Nat} (le : n ≤ m) :
    streamPrefix block positive n <+: streamPrefix block positive m := by
  have covered : m ≤ m * k := Nat.le_mul_of_pos_right m positive
  rw [← take_blocks block positive m n (by omega), ← take_blocks block positive m m covered]
  exact List.take_prefix_take_left le

end Expand
