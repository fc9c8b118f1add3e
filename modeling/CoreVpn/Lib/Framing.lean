import Mathlib.Data.List.Basic

/-!
# Delimiter framing

Non-transparent framing sends each message followed by a separator, and a reader
cuts the stream at every separator. `delimit` is the sender's stream and `frames`
the reader's cut. The reader gets back exactly the messages sent when no message
holds the separator (`frames_delimit_eq_iff`). Otherwise every separator inside a
message starts a frame of its own, so the reader sees one frame per message plus
one per separator they hold (`length_frames_delimit`).
-/

namespace Framing

set_option autoImplicit false

variable {α : Type} (separator : α)

def delimit (messages : List (List α)) : List α :=
  messages.flatMap fun message => message ++ [separator]

@[simp] theorem delimit_nil : delimit separator [] = [] := rfl

theorem delimit_cons (message : List α) (messages : List (List α)) :
    delimit separator (message :: messages) = message ++ separator :: delimit separator messages := by
  simp [delimit]

@[simp] theorem delimit_append (front back : List (List α)) :
    delimit separator (front ++ back) = delimit separator front ++ delimit separator back :=
  List.flatMap_append ..

section Reading

variable [DecidableEq α]

def frames (stream : List α) : List (List α) :=
  (stream.splitOn separator).dropLast

theorem splitOn_delimit (messages : List (List α)) :
    (delimit separator messages).splitOn separator =
      messages.flatMap (·.splitOn separator) ++ [[]] := by
  induction messages with
  | nil => rfl
  | cons message messages ih =>
      rw [delimit_cons, List.splitOn_append_cons_self, ih, List.flatMap_cons, List.append_assoc]

theorem frames_delimit (messages : List (List α)) :
    frames separator (delimit separator messages) = messages.flatMap (·.splitOn separator) := by
  rw [frames, splitOn_delimit, List.dropLast_concat]

theorem length_splitOn (text : List α) :
    (text.splitOn separator).length = text.count separator + 1 := by
  induction text with
  | nil => rfl
  | cons x text ih =>
      rw [List.splitOn_cons_eq_if_modifyHead, List.count_cons]
      by_cases same : x = separator
      · simp [same, ih]
      · simp [same, ih]

theorem length_frames_delimit (messages : List (List α)) :
    (frames separator (delimit separator messages)).length =
      messages.length + messages.flatten.count separator := by
  rw [frames_delimit]
  induction messages with
  | nil => rfl
  | cons message messages ih =>
      rw [List.flatMap_cons, List.length_append, ih, length_splitOn, List.flatten_cons, List.count_append,
        List.length_cons]
      omega

theorem frames_delimit_eq_iff (messages : List (List α)) :
    frames separator (delimit separator messages) = messages ↔ ∀ message ∈ messages, separator ∉ message := by
  constructor
  · intro same message member inside
    have lengths := congrArg List.length same
    rw [length_frames_delimit] at lengths
    have none : messages.flatten.count separator = 0 := by omega
    exact List.count_eq_zero.mp none (List.mem_flatten.mpr ⟨message, member, inside⟩)
  · intro clean
    rw [frames_delimit]
    have single : ∀ message ∈ messages, message.splitOn separator = [message] :=
      fun message member => List.splitOn_eq_singleton (clean message member)
    rw [List.flatMap_congr single, List.flatMap_singleton']

theorem frames_append_separator (front back : List α) (clean : separator ∉ back) :
    frames separator (front ++ separator :: (back ++ [separator])) = front.splitOn separator ++ [back] := by
  have tail : (back ++ [separator]).splitOn separator = [back, []] := by
    rw [List.splitOn_append_cons_self_of_not_mem clean, List.splitOn_nil]
  rw [frames, List.splitOn_append_cons_self, tail, ← List.singleton_append, ← List.append_assoc,
    List.dropLast_concat]

/-! ### The pieces of a cut

The first piece of a cut runs to the first separator, or to the end of a text that
holds none; the second piece is the first piece of what follows the first separator. -/

variable {separator}

theorem exists_eq_append_cons_of_mem {text : List α} (member : separator ∈ text) :
    ∃ first rest, separator ∉ first ∧ text = first ++ separator :: rest := by
  induction text with
  | nil => cases member
  | cons x text ih =>
      by_cases same : x = separator
      · exact ⟨[], text, List.not_mem_nil, by rw [same, List.nil_append]⟩
      · have later : separator ∈ text := by
          rcases List.mem_cons.mp member with here | there
          · exact absurd here.symm same
          · exact there
        obtain ⟨first, rest, clean, split⟩ := ih later
        refine ⟨x :: first, rest, ?_, by rw [split, List.cons_append]⟩
        rw [List.mem_cons, not_or]
        exact ⟨Ne.symm same, clean⟩

theorem head?_splitOn_eq_some_iff (text piece : List α) :
    (text.splitOn separator).head? = some piece ↔
      separator ∉ piece ∧ (text = piece ∨ ∃ rest, text = piece ++ separator :: rest) := by
  constructor
  · intro found
    by_cases member : separator ∈ text
    · obtain ⟨first, rest, clean, rfl⟩ := exists_eq_append_cons_of_mem member
      rw [List.splitOn_append_cons_self_of_not_mem clean, List.head?_cons, Option.some.injEq] at found
      subst found
      exact ⟨clean, .inr ⟨rest, rfl⟩⟩
    · rw [List.splitOn_eq_singleton member, List.head?_cons, Option.some.injEq] at found
      subst found
      exact ⟨member, .inl rfl⟩
  · rintro ⟨clean, rfl | ⟨rest, rfl⟩⟩
    · rw [List.splitOn_eq_singleton clean, List.head?_cons]
    · rw [List.splitOn_append_cons_self_of_not_mem clean, List.head?_cons]

theorem splitOn_getElem?_one_eq_some_iff (text piece : List α) :
    (text.splitOn separator)[1]? = some piece ↔
      ∃ first, separator ∉ first ∧ separator ∉ piece ∧
        (text = first ++ separator :: piece ∨
          ∃ rest, text = first ++ separator :: (piece ++ separator :: rest)) := by
  constructor
  · intro found
    by_cases member : separator ∈ text
    · obtain ⟨first, after, clean, rfl⟩ := exists_eq_append_cons_of_mem member
      rw [List.splitOn_append_cons_self_of_not_mem clean, List.getElem?_cons_succ,
        ← List.head?_eq_getElem?, head?_splitOn_eq_some_iff] at found
      obtain ⟨inside, rfl | ⟨rest, rfl⟩⟩ := found
      · exact ⟨first, clean, inside, .inl rfl⟩
      · exact ⟨first, clean, inside, .inr ⟨rest, rfl⟩⟩
    · rw [List.splitOn_eq_singleton member, List.getElem?_cons_succ, List.getElem?_nil] at found
      cases found
  · rintro ⟨first, clean, inside, split⟩
    have after : ∃ after, text = first ++ separator :: after ∧
        (after = piece ∨ ∃ rest, after = piece ++ separator :: rest) := by
      rcases split with rfl | ⟨rest, rfl⟩
      · exact ⟨piece, rfl, .inl rfl⟩
      · exact ⟨_, rfl, .inr ⟨rest, rfl⟩⟩
    obtain ⟨after, rfl, shape⟩ := after
    rw [List.splitOn_append_cons_self_of_not_mem clean, List.getElem?_cons_succ,
      ← List.head?_eq_getElem?, head?_splitOn_eq_some_iff]
    exact ⟨inside, shape⟩

end Reading

end Framing
