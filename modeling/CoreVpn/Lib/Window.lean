import Mathlib.Data.List.Basic

/-!
# A window on the newest items

A bounded buffer that drops its oldest item before it appends a new one once it holds
`capacity` items (`push`, a `VecDeque` with `pop_front` and `push_back`). From empty, and
whatever was pushed, it holds the last `capacity` items pushed, in order (`foldl_push`):
the buffer is `lastN` of the whole history.
-/

namespace Window

set_option autoImplicit false

variable {α : Type}

def push (capacity : Nat) (items : List α) (item : α) : List α :=
  if capacity ≤ items.length then items.tail ++ [item] else items ++ [item]

def lastN (capacity : Nat) (items : List α) : List α :=
  items.drop (items.length - capacity)

theorem length_lastN (capacity : Nat) (items : List α) :
    (lastN capacity items).length = min capacity items.length := by
  rw [lastN, List.length_drop]
  omega

theorem lastN_of_length_le {capacity : Nat} {items : List α} (short : items.length ≤ capacity) :
    lastN capacity items = items := by
  rw [lastN, Nat.sub_eq_zero_of_le short, List.drop_zero]

@[simp] theorem lastN_nil (capacity : Nat) : lastN capacity ([] : List α) = [] := List.drop_nil

theorem reverse_lastN (capacity : Nat) (items : List α) :
    (lastN capacity items).reverse = items.reverse.take capacity := by
  rw [lastN, List.take_reverse]

theorem push_lastN {capacity : Nat} (positive : 0 < capacity) (items : List α) (item : α) :
    push capacity (lastN capacity items) item = lastN capacity (items ++ [item]) := by
  unfold push
  rw [length_lastN]
  by_cases full : capacity ≤ items.length
  · -- the oldest of the window goes, and the window moves one item on
    rw [if_pos (by omega), lastN, lastN, List.tail_drop, List.length_append, List.length_singleton,
      List.drop_append_of_le_length (by omega)]
    congr 2
    omega
  · rw [if_neg (by omega), lastN_of_length_le (by omega), lastN_of_length_le]
    rw [List.length_append, List.length_singleton]
    omega

theorem length_push_le {capacity : Nat} (positive : 0 < capacity) {items : List α} (bounded : items.length ≤ capacity)
    (item : α) : (push capacity items item).length ≤ capacity := by
  unfold push
  split
  · rw [List.length_append, List.length_tail, List.length_singleton]
    omega
  · rw [List.length_append, List.length_singleton]
    omega

theorem foldl_push {capacity : Nat} (positive : 0 < capacity) (items more : List α) :
    more.foldl (push capacity) (lastN capacity items) = lastN capacity (items ++ more) := by
  induction more generalizing items with
  | nil => rw [List.foldl_nil, List.append_nil]
  | cons item more ih =>
      rw [List.foldl_cons, push_lastN positive, ih, List.append_assoc, List.singleton_append]

end Window
