import Mathlib.Data.List.Basic

/-!
# Batching buffers

A buffer that collects items and hands them on in batches. `push` appends an item, and
once the buffer holds `batchSize` items it hands the whole buffer on
(`send_batch(std::mem::take(buffer))`). `flush` hands on whatever is buffered. An empty
batch is never handed on.

Nothing is lost or repeated: the batches handed on, followed by the buffer, are the items
pushed, in order (`items_push`, `items_flush`). Every batch handed on is non-empty and at
most a full batch long, and the buffer is shorter than one (`Bounded`). A full batch is
`batchSize` items, or one item when `batchSize` is zero. A batch that `push` hands on is
exactly full (`push_full`), so between two flushes every batch is full (`Full`).
-/

namespace Batch

set_option autoImplicit false

/-- The items buffered, and the batches handed on so far, oldest first. -/
structure Batcher (α : Type) where
  buffer : List α
  sent : List (List α)
  deriving DecidableEq

variable {α : Type}

namespace Batcher

def empty : Batcher α := ⟨[], []⟩

/-- `send_batch`: an empty batch is not handed on. -/
def sendBatch (sent : List (List α)) (batch : List α) : List (List α) :=
  if batch.isEmpty then sent else sent ++ [batch]

/-- `buffer.push(item)`, and the whole buffer handed on once it holds `batchSize` items. -/
def push (batchSize : Nat) (batcher : Batcher α) (item : α) : Batcher α :=
  if batchSize ≤ (batcher.buffer ++ [item]).length then ⟨[], sendBatch batcher.sent (batcher.buffer ++ [item])⟩
  else ⟨batcher.buffer ++ [item], batcher.sent⟩

/-- `flush`: the buffer handed on. -/
def flush (batcher : Batcher α) : Batcher α := ⟨[], sendBatch batcher.sent batcher.buffer⟩

def items (batcher : Batcher α) : List α := batcher.sent.flatten ++ batcher.buffer

def full (batchSize : Nat) : Nat := max batchSize 1

theorem full_pos (batchSize : Nat) : 0 < full batchSize := by
  unfold full
  omega

/-! ## Nothing lost, nothing repeated -/

theorem flatten_sendBatch (sent : List (List α)) (batch : List α) :
    (sendBatch sent batch).flatten = sent.flatten ++ batch := by
  unfold sendBatch
  split
  · rename_i empty
    rw [List.isEmpty_iff.mp empty, List.append_nil]
  · rw [List.flatten_append, List.flatten_singleton]

theorem items_push (batchSize : Nat) (batcher : Batcher α) (item : α) :
    (batcher.push batchSize item).items = batcher.items ++ [item] := by
  unfold push items
  split
  · rw [flatten_sendBatch, List.append_nil, List.append_assoc]
  · rw [List.append_assoc]

theorem items_flush (batcher : Batcher α) : batcher.flush.items = batcher.items := by
  rw [flush, items, items, flatten_sendBatch, List.append_nil]

@[simp] theorem buffer_flush (batcher : Batcher α) : batcher.flush.buffer = [] := rfl

theorem items_foldl_push (batchSize : Nat) (more : List α) (batcher : Batcher α) :
    (more.foldl (push batchSize) batcher).items = batcher.items ++ more := by
  induction more generalizing batcher with
  | nil => rw [List.foldl_nil, List.append_nil]
  | cons item more ih => rw [List.foldl_cons, ih, items_push, List.append_assoc, List.singleton_append]

/-! ## Batch sizes -/

theorem mem_sendBatch {sent : List (List α)} {batch other : List α} (member : other ∈ sendBatch sent batch) :
    other ∈ sent ∨ (other = batch ∧ batch ≠ []) := by
  unfold sendBatch at member
  split at member
  · exact Or.inl member
  · rename_i nonempty
    rcases List.mem_append.mp member with old | fresh
    · exact Or.inl old
    · exact Or.inr ⟨List.mem_singleton.mp fresh, fun empty => nonempty (by rw [empty]; rfl)⟩

/-- Batches are non-empty and at most full, and the buffer is shorter than a full batch. -/
structure Bounded (batchSize : Nat) (batcher : Batcher α) : Prop where
  buffer_lt : batcher.buffer.length < full batchSize
  sent_ne_nil : ∀ batch ∈ batcher.sent, batch ≠ []
  sent_le : ∀ batch ∈ batcher.sent, batch.length ≤ full batchSize

theorem bounded_empty (batchSize : Nat) : Bounded batchSize (empty : Batcher α) :=
  ⟨full_pos batchSize, nofun, nofun⟩

variable {batchSize : Nat} {batcher : Batcher α}

theorem push_full (bounded : Bounded batchSize batcher) (item : α)
    (handed : batchSize ≤ (batcher.buffer ++ [item]).length) : (batcher.buffer ++ [item]).length = full batchSize := by
  have short := bounded.buffer_lt
  rw [List.length_append, List.length_singleton] at handed ⊢
  unfold full at short ⊢
  omega

theorem Bounded.sent_sendBatch (bounded : Bounded batchSize batcher) {batch : List α}
    (short : batch.length ≤ full batchSize) :
    (∀ other ∈ sendBatch batcher.sent batch, other ≠ []) ∧
      ∀ other ∈ sendBatch batcher.sent batch, other.length ≤ full batchSize := by
  refine ⟨fun other member => ?_, fun other member => ?_⟩
  · rcases mem_sendBatch member with old | ⟨same, nonempty⟩
    · exact bounded.sent_ne_nil other old
    · rwa [same]
  · rcases mem_sendBatch member with old | ⟨same, _⟩
    · exact bounded.sent_le other old
    · rwa [same]

theorem Bounded.push (bounded : Bounded batchSize batcher) (item : α) :
    Bounded batchSize (batcher.push batchSize item) := by
  unfold Batcher.push
  split
  · rename_i handed
    have sent := bounded.sent_sendBatch (Nat.le_of_eq (push_full bounded item handed))
    exact ⟨full_pos batchSize, sent.1, sent.2⟩
  · rename_i waiting
    refine ⟨?_, bounded.sent_ne_nil, bounded.sent_le⟩
    have short := bounded.buffer_lt
    rw [List.length_append, List.length_singleton] at waiting ⊢
    unfold full at short ⊢
    omega

theorem Bounded.flush (bounded : Bounded batchSize batcher) : Bounded batchSize batcher.flush :=
  have sent := bounded.sent_sendBatch (Nat.le_of_lt bounded.buffer_lt)
  ⟨full_pos batchSize, sent.1, sent.2⟩

/-- Every batch handed on is full. -/
def Full (batchSize : Nat) (batcher : Batcher α) : Prop := ∀ batch ∈ batcher.sent, batch.length = full batchSize

theorem Full.push (bounded : Bounded batchSize batcher) (fullBatches : Full batchSize batcher) (item : α) :
    Full batchSize (batcher.push batchSize item) := by
  unfold Batcher.push
  split
  · rename_i handed
    intro batch member
    rcases mem_sendBatch member with old | ⟨same, _⟩
    · exact fullBatches batch old
    · rw [same, push_full bounded item handed]
  · exact fullBatches

theorem foldl_push_empty (batchSize : Nat) (more : List α) :
    let batcher := more.foldl (push batchSize) empty
    batcher.items = more ∧ Bounded batchSize batcher ∧ Full batchSize batcher := by
  have run : ∀ (pending : List α) (start : Batcher α), Bounded batchSize start → Full batchSize start →
      Bounded batchSize (pending.foldl (push batchSize) start) ∧ Full batchSize (pending.foldl (push batchSize) start) := by
    intro pending
    induction pending with
    | nil => exact fun _ bounded fullBatches => ⟨bounded, fullBatches⟩
    | cons item pending ih =>
        exact fun start bounded fullBatches => ih _ (bounded.push item) (Full.push bounded fullBatches item)
  obtain ⟨bounded, fullBatches⟩ := run more empty (bounded_empty batchSize) nofun
  exact ⟨by rw [items_foldl_push, items, empty, List.flatten_nil, List.nil_append, List.nil_append], bounded,
    fullBatches⟩

end Batcher

end Batch
