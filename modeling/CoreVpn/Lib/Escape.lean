import Mathlib.Data.List.Basic

/-!
# Character substitution and backslash escaping

`substitute target replacement text` is `str::replace` with a one-character pattern:
every occurrence of `target` becomes `replacement`. `replaceEach` makes the
replacements of a table one after the other, each over the whole text the one before
it left. A text map that distributes over concatenation, as every such chain does, is
a character map (`eq_flatMap_of_map_append`); a chain in which no replacement rewrites
what an earlier one wrote writes each character as one lookup in its table would
(`replaceEach_singleton`), and is the one-pass escaping of `Scheme` below
(`Scheme.replaceEach_eq_encode`).

A `Scheme` is a backslash escaping: the characters of its table are written as the
escape character followed by their code, every other character stands for itself.
Its encodings can be read back. `readField` reads an encoded field up to the first
unescaped stop character, and on an encoding followed by a stop it returns the
original text and the rest (`readField_encode`): a field cannot end early, and no
text inside it can pass for a field of its own. A character the table escapes that
is neither the escape character nor a code never occurs in an encoding
(`not_mem_encode`).
-/

namespace Escape

set_option autoImplicit false

variable {α : Type} [DecidableEq α]

/-! ## Substitution -/

def substitute (target : α) (replacement : List α) (text : List α) : List α :=
  text.flatMap fun x => if x = target then replacement else [x]

section Substitute

variable (target : α) (replacement : List α)

@[simp] theorem substitute_nil : substitute target replacement [] = [] := rfl

@[simp] theorem substitute_append (front back : List α) :
    substitute target replacement (front ++ back) =
      substitute target replacement front ++ substitute target replacement back :=
  List.flatMap_append ..

@[simp] theorem substitute_singleton_self : substitute target replacement [target] = replacement := by
  simp [substitute]

theorem substitute_singleton_of_ne {x : α} (other : x ≠ target) :
    substitute target replacement [x] = [x] := by
  simp [substitute, other]

end Substitute

omit [DecidableEq α] in
theorem eq_flatMap_of_map_append {β : Type} (f : List α → List β) (nil : f [] = [])
    (append : ∀ front back, f (front ++ back) = f front ++ f back) (text : List α) :
    f text = text.flatMap fun x => f [x] := by
  induction text with
  | nil => exact nil
  | cons x rest ih =>
      rw [List.flatMap_cons, ← ih, ← append]
      rfl

/-! ## Chains of replacements -/

section ReplaceEach

variable (escape : α)

def replaceEach (table : List (α × α)) (text : List α) : List α :=
  table.foldl (fun text entry => substitute entry.1 [escape, entry.2] text) text

theorem replaceEach_cons (entry : α × α) (table : List (α × α)) (text : List α) :
    replaceEach escape (entry :: table) text =
      replaceEach escape table (substitute entry.1 [escape, entry.2] text) := rfl

theorem replaceEach_nil (table : List (α × α)) : replaceEach escape table [] = [] := by
  induction table with
  | nil => rfl
  | cons entry table ih => rw [replaceEach_cons, substitute_nil, ih]

theorem replaceEach_append (table : List (α × α)) (front back : List α) :
    replaceEach escape table (front ++ back) =
      replaceEach escape table front ++ replaceEach escape table back := by
  induction table generalizing front back with
  | nil => rfl
  | cons entry table ih => simp only [replaceEach_cons, substitute_append, ih]

theorem replaceEach_singleton_of_not_mem (table : List (α × α)) {x : α}
    (plain : x ∉ table.map Prod.fst) : replaceEach escape table [x] = [x] := by
  induction table with
  | nil => rfl
  | cons entry table ih =>
      rw [List.map_cons, List.mem_cons, not_or] at plain
      rw [replaceEach_cons, substitute_singleton_of_ne _ _ plain.1, ih plain.2]

theorem replaceEach_singleton {table : List (α × α)}
    (sequential : table.Pairwise fun earlier later => later.1 ≠ escape ∧ later.1 ≠ earlier.2)
    (x : α) :
    replaceEach escape table [x] =
      match table.lookup x with
      | some code => [escape, code]
      | none => [x] := by
  induction table with
  | nil => rfl
  | cons entry table ih =>
      obtain ⟨c, code⟩ := entry
      obtain ⟨untouched, sequential⟩ := List.pairwise_cons.mp sequential
      by_cases same : x = c
      · -- `(c, code)` writes the pair, and no later entry rewrites either character of it
        subst same
        have escapeKept : escape ∉ table.map Prod.fst := fun member => by
          obtain ⟨later, inside, named⟩ := List.mem_map.mp member
          exact (untouched later inside).1 named
        have codeKept : code ∉ table.map Prod.fst := fun member => by
          obtain ⟨later, inside, named⟩ := List.mem_map.mp member
          exact (untouched later inside).2 named
        rw [replaceEach_cons, substitute_singleton_self, List.lookup_cons_self]
        rw [show [escape, code] = [escape] ++ [code] from rfl, replaceEach_append,
          replaceEach_singleton_of_not_mem _ _ escapeKept,
          replaceEach_singleton_of_not_mem _ _ codeKept]
        rfl
      · rw [replaceEach_cons, substitute_singleton_of_ne _ _ same, ih sequential, List.lookup_cons,
          beq_false_of_ne same]

end ReplaceEach

/-! ## Escaping schemes -/

/-- A backslash escaping. The table pairs each escaped character with its code; the
escape character is escaped itself, and no two characters share a code. -/
structure Scheme (α : Type) where
  escape : α
  table : List (α × α)
  escape_escaped : escape ∈ table.map Prod.fst
  codes_nodup : (table.map Prod.snd).Nodup

namespace Scheme

variable (scheme : Scheme α)

def encodeChar (x : α) : List α :=
  match scheme.table.lookup x with
  | some code => [scheme.escape, code]
  | none => [x]

def encode (text : List α) : List α := text.flatMap scheme.encodeChar

def original (code : α) : Option α := (scheme.table.map Prod.swap).lookup code

def readField (isStop : α → Bool) : List α → Option (List α × List α)
  | [] => some ([], [])
  | x :: rest =>
      if isStop x then some ([], x :: rest)
      else if x = scheme.escape then
        match rest with
        | code :: rest =>
            match scheme.original code with
            | some y => (readField isStop rest).map fun field => (y :: field.1, field.2)
            | none => none
        | [] => none
      else (readField isStop rest).map fun field => (x :: field.1, field.2)

def decode (text : List α) : Option (List α) :=
  (scheme.readField (fun _ => false) text).map (·.1)

@[simp] theorem encode_nil : scheme.encode [] = [] := rfl

@[simp] theorem encode_cons (x : α) (text : List α) :
    scheme.encode (x :: text) = scheme.encodeChar x ++ scheme.encode text :=
  List.flatMap_cons ..

@[simp] theorem encode_append (front back : List α) :
    scheme.encode (front ++ back) = scheme.encode front ++ scheme.encode back :=
  List.flatMap_append ..

theorem mem_of_lookup {x code : α} (found : scheme.table.lookup x = some code) :
    (x, code) ∈ scheme.table := by
  obtain ⟨front, back, split, -⟩ := List.lookup_eq_some_iff.mp found
  rw [split]
  exact List.mem_append_right _ List.mem_cons_self

theorem original_of_lookup {x code : α} (found : scheme.table.lookup x = some code) :
    scheme.original code = some x := by
  obtain ⟨front, back, split, -⟩ := List.lookup_eq_some_iff.mp found
  have distinct := scheme.codes_nodup
  rw [split, List.map_append, List.map_cons, List.nodup_append] at distinct
  have earlier : (front.map Prod.swap).lookup code = none := by
    rw [List.lookup_eq_none_iff]
    intro entry member
    obtain ⟨⟨y, other⟩, earlierEntry, rfl⟩ := List.mem_map.mp member
    have apart := distinct.2.2 other (List.mem_map.mpr ⟨_, earlierEntry, rfl⟩) code List.mem_cons_self
    simpa [bne_iff_ne] using Ne.symm apart
  rw [original, split, List.map_append, List.map_cons, List.lookup_append, earlier]
  simp

theorem lookup_escape : (scheme.table.lookup scheme.escape).isSome := by
  obtain ⟨entry, member, same⟩ := List.mem_map.mp scheme.escape_escaped
  rw [List.lookup_isSome_iff]
  exact ⟨entry, member, by simp [same]⟩

theorem ne_escape_of_lookup {x : α} (plain : scheme.table.lookup x = none) : x ≠ scheme.escape := by
  rintro rfl
  have escaped := scheme.lookup_escape
  rw [plain] at escaped
  cases escaped

section Read

variable (isStop : α → Bool) (rest : List α)

theorem readField_stop {x : α} (stop : isStop x = true) :
    scheme.readField isStop (x :: rest) = some ([], x :: rest) := by
  rw [readField.eq_def]
  dsimp only
  rw [if_pos stop]

theorem readField_plain {x : α} (notStop : isStop x = false) (notEscape : x ≠ scheme.escape) :
    scheme.readField isStop (x :: rest) =
      (scheme.readField isStop rest).map fun field => (x :: field.1, field.2) := by
  rw [readField.eq_def]
  dsimp only
  rw [if_neg (by simp [notStop]), if_neg notEscape]

theorem readField_escaped {code y : α} (notStop : isStop scheme.escape = false)
    (stands : scheme.original code = some y) :
    scheme.readField isStop (scheme.escape :: code :: rest) =
      (scheme.readField isStop rest).map fun field => (y :: field.1, field.2) := by
  rw [readField.eq_def]
  dsimp only
  rw [if_neg (by simp [notStop]), if_pos rfl]
  simp only [stands]

end Read

theorem readField_encode (isStop : α → Bool)
    (stopsEscaped : ∀ x, isStop x = true → (scheme.table.lookup x).isSome)
    (escapeNoStop : isStop scheme.escape = false) (text after : List α)
    (boundary : ∀ x rest, after = x :: rest → isStop x = true) :
    scheme.readField isStop (scheme.encode text ++ after) = some (text, after) := by
  induction text with
  | nil =>
      cases after with
      | nil => rfl
      | cons x rest => exact scheme.readField_stop isStop rest (boundary x rest rfl)
  | cons x text ih =>
      rw [encode_cons, List.append_assoc]
      cases found : scheme.table.lookup x with
      | some code =>
          simp only [encodeChar, found, List.cons_append, List.nil_append]
          rw [scheme.readField_escaped isStop _ escapeNoStop (scheme.original_of_lookup found), ih]
          rfl
      | none =>
          have notStop : isStop x = false := by
            cases stop : isStop x
            · rfl
            · have escaped := stopsEscaped x stop
              rw [found] at escaped
              cases escaped
          simp only [encodeChar, found, List.cons_append, List.nil_append]
          rw [scheme.readField_plain isStop _ notStop (scheme.ne_escape_of_lookup found), ih]
          rfl

theorem decode_encode (text : List α) : scheme.decode (scheme.encode text) = some text := by
  have whole := scheme.readField_encode (fun _ => false) (fun _ stop => nomatch stop) rfl text []
    (fun _ _ empty => nomatch empty)
  rw [List.append_nil] at whole
  simp [decode, whole]

theorem encode_injective : Function.Injective scheme.encode := by
  intro first second same
  have decoded := scheme.decode_encode first
  rw [same, scheme.decode_encode second] at decoded
  exact (Option.some.inj decoded).symm

theorem not_mem_encode (y : α) (escaped : (scheme.table.lookup y).isSome)
    (notEscape : y ≠ scheme.escape) (notCode : y ∉ scheme.table.map Prod.snd) (text : List α) :
    y ∉ scheme.encode text := by
  intro member
  obtain ⟨x, -, inside⟩ := List.mem_flatMap.mp member
  unfold encodeChar at inside
  split at inside
  · next code found =>
      rcases List.mem_pair.mp inside with same | same
      · exact notEscape same
      · exact notCode (List.mem_map.mpr ⟨_, scheme.mem_of_lookup found, same.symm⟩)
  · next plain =>
      rw [List.mem_singleton.mp inside, plain] at escaped
      cases escaped

theorem mem_encode_iff_of_plain (y : α) (plain : scheme.table.lookup y = none)
    (notCode : y ∉ scheme.table.map Prod.snd) (text : List α) :
    y ∈ scheme.encode text ↔ y ∈ text := by
  constructor
  · intro member
    obtain ⟨x, source, inside⟩ := List.mem_flatMap.mp member
    unfold encodeChar at inside
    split at inside
    · next code found =>
        rcases List.mem_pair.mp inside with same | same
        · exact absurd same (scheme.ne_escape_of_lookup plain)
        · exact absurd (List.mem_map.mpr ⟨_, scheme.mem_of_lookup found, same.symm⟩) notCode
    · rw [List.mem_singleton.mp inside]
      exact source
  · intro member
    apply List.mem_flatMap.mpr ⟨y, member, _⟩
    simp [encodeChar, plain]

theorem eq_encode_of_chars (f : List α → List α) (nil : f [] = [])
    (append : ∀ front back, f (front ++ back) = f front ++ f back)
    (chars : ∀ x, f [x] = scheme.encodeChar x) (text : List α) : f text = scheme.encode text := by
  rw [eq_flatMap_of_map_append f nil append, encode]
  exact List.flatMap_congr fun x _ => chars x

theorem replaceEach_eq_encode
    (sequential : scheme.table.Pairwise fun earlier later =>
      later.1 ≠ scheme.escape ∧ later.1 ≠ earlier.2) :
    replaceEach scheme.escape scheme.table = scheme.encode :=
  funext (scheme.eq_encode_of_chars _ (replaceEach_nil _ _) (replaceEach_append _ _)
    (replaceEach_singleton _ sequential))

end Scheme

end Escape
