import Mathlib.Data.List.Basic

/-!
# One queue, one consumer, several receivers

Producers append items to a queue. One consumer takes the item at the head and hands it
to each of `count` receivers in turn, one receiver per step, before it takes the next;
with no receiver it drops the item. The consumer's hand holds the item and the next
receiver. Receiver `i` still waits for the queue, and also for the item in hand while the
consumer has not yet reached `i` (`pending`).

Each kind of step moves items between the producers, this view and the receivers
without loss: an append adds the item at the end of every view (`pending_push`), taking
the head changes no view (`pending_grab`), and handing the item to a receiver moves it
from that receiver's view to the receiver and changes no other view (`pending_advance`).
So whatever the order in which producers and consumer interleave, each receiver has been
handed exactly the accepted items minus those it still waits for, in order.
`drainSteps` counts the consumer steps that empty the queue and the hand.
-/

namespace Fanout

set_option autoImplicit false

variable {α : Type}

def pending (queue : List α) (hand : Option (α × Nat)) (receiver : Nat) : List α :=
  match hand with
  | some (item, next) => if next ≤ receiver then item :: queue else queue
  | none => queue

def grab (item : α) (count : Nat) : Option (α × Nat) :=
  if 0 < count then some (item, 0) else none

def advance (item : α) (next count : Nat) : Option (α × Nat) :=
  if next + 1 < count then some (item, next + 1) else none

/-- The hand names a receiver that exists. -/
def HandBelow (hand : Option (α × Nat)) (count : Nat) : Prop :=
  ∀ item next, hand = some (item, next) → next < count

def consume (queue : List α) (hand : Option (α × Nat)) (count : Nat) : List α × Option (α × Nat) :=
  match hand with
  | some (item, next) => (queue, advance item next count)
  | none =>
      match queue with
      | [] => ([], none)
      | item :: rest => (rest, grab item count)

def drainSteps (queue : List α) (hand : Option (α × Nat)) (count : Nat) : Nat :=
  (match hand with
    | some (_, next) => count - next
    | none => 0) + queue.length * (count + 1)

@[simp] theorem pending_none (queue : List α) (receiver : Nat) : pending queue none receiver = queue := rfl

theorem pending_some (queue : List α) (item : α) (next receiver : Nat) :
    pending queue (some (item, next)) receiver = if next ≤ receiver then item :: queue else queue := rfl

theorem drainSteps_some (queue : List α) (item : α) (next count : Nat) :
    drainSteps queue (some (item, next)) count = count - next + queue.length * (count + 1) := rfl

theorem drainSteps_none (queue : List α) (count : Nat) :
    drainSteps queue none count = queue.length * (count + 1) := Nat.zero_add _

theorem handBelow_none (count : Nat) : HandBelow (none : Option (α × Nat)) count :=
  fun _ _ absent => nomatch absent

theorem handBelow_grab (item : α) (count : Nat) : HandBelow (grab item count) count := by
  intro held next found
  unfold grab at found
  split at found
  · cases found
    assumption
  · cases found

theorem handBelow_advance (item : α) (next count : Nat) : HandBelow (advance item next count) count := by
  intro held later found
  unfold advance at found
  split at found
  · cases found
    assumption
  · cases found

theorem pending_push (queue : List α) (hand : Option (α × Nat)) (item : α) (receiver : Nat) :
    pending (queue ++ [item]) hand receiver = pending queue hand receiver ++ [item] := by
  cases hand with
  | none => rfl
  | some held =>
      obtain ⟨inHand, next⟩ := held
      rw [pending_some, pending_some]
      split <;> rfl

theorem pending_grab (item : α) (rest : List α) {count receiver : Nat} (below : receiver < count) :
    pending rest (grab item count) receiver = pending (item :: rest) none receiver := by
  have somebody : 0 < count := Nat.lt_of_le_of_lt (Nat.zero_le receiver) below
  rw [grab, if_pos somebody, pending_some, if_pos (Nat.zero_le receiver), pending_none]

theorem pending_advance (item : α) (queue : List α) {next count receiver : Nat} (below : receiver < count) :
    (if receiver = next then [item] else []) ++ pending queue (advance item next count) receiver =
      pending queue (some (item, next)) receiver := by
  rw [pending_some]
  unfold advance
  by_cases reached : receiver = next
  · -- the receiver just served waits for the queue only
    subst reached
    rw [if_pos rfl, if_pos (Nat.le_refl receiver)]
    split
    · rw [pending_some, if_neg (by omega)]
      rfl
    · rfl
  · rw [if_neg reached, List.nil_append]
    split
    · rw [pending_some]
      by_cases before : next < receiver
      · rw [if_pos (by omega), if_pos (by omega)]
      · rw [if_neg (by omega), if_neg (by omega)]
    · -- the consumer let go of the item: it had reached the last receiver
      have notAfter : ¬ next ≤ receiver := by omega
      rw [pending_none, if_neg notAfter]

theorem drainSteps_consume {queue : List α} {hand : Option (α × Nat)} {count steps : Nat}
    (wellFormed : HandBelow hand count) (left : drainSteps queue hand count = steps + 1) :
    drainSteps (consume queue hand count).1 (consume queue hand count).2 count = steps := by
  cases hand with
  | some held =>
      obtain ⟨item, next⟩ := held
      have below := wellFormed item next rfl
      rw [drainSteps_some] at left
      show drainSteps queue (advance item next count) count = steps
      unfold advance
      split
      · rw [drainSteps_some]
        omega
      · rw [drainSteps_none]
        omega
  | none =>
      cases queue with
      | nil => rw [drainSteps_none, List.length_nil, Nat.zero_mul] at left; omega
      | cons item rest =>
          rw [drainSteps_none, List.length_cons, Nat.succ_mul] at left
          show drainSteps rest (grab item count) count = steps
          unfold grab
          split
          · rw [drainSteps_some, Nat.sub_zero]
            omega
          · rw [drainSteps_none]
            omega

theorem drainSteps_eq_zero {queue : List α} {hand : Option (α × Nat)} {count : Nat}
    (wellFormed : HandBelow hand count) (drained : drainSteps queue hand count = 0) :
    queue = [] ∧ hand = none := by
  cases hand with
  | some held =>
      obtain ⟨item, next⟩ := held
      have below := wellFormed item next rfl
      rw [drainSteps_some] at drained
      omega
  | none =>
      have empty : queue.length = 0 := by
        rw [drainSteps_none] at drained
        exact (Nat.mul_eq_zero.mp drained).resolve_right (Nat.succ_ne_zero count)
      exact ⟨List.eq_nil_of_length_eq_zero empty, rfl⟩

theorem drainSteps_consume_sub_one {queue : List α} {hand : Option (α × Nat)} {count : Nat}
    (wellFormed : HandBelow hand count) :
    drainSteps (consume queue hand count).1 (consume queue hand count).2 count = drainSteps queue hand count - 1 := by
  cases left : drainSteps queue hand count with
  | zero =>
      obtain ⟨rfl, rfl⟩ := drainSteps_eq_zero wellFormed left
      show drainSteps [] none count = 0 - 1
      rw [left]
  | succ steps => rw [drainSteps_consume wellFormed left, Nat.add_sub_cancel]

theorem drainSteps_le (queue : List α) (hand : Option (α × Nat)) (count : Nat) :
    drainSteps queue hand count ≤ count + queue.length * (count + 1) := by
  cases hand with
  | none =>
      rw [drainSteps_none]
      exact Nat.le_add_left _ _
  | some held =>
      obtain ⟨item, next⟩ := held
      rw [drainSteps_some]
      exact Nat.add_le_add_right (Nat.sub_le count next) _

theorem handBelow_consume (queue : List α) (hand : Option (α × Nat)) (count : Nat) :
    HandBelow (consume queue hand count).2 count := by
  unfold consume
  split
  · exact handBelow_advance _ _ _
  · split
    · exact handBelow_none count
    · exact handBelow_grab _ _

end Fanout
