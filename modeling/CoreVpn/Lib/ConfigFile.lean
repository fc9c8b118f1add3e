import CoreVpn.Lib.RustStr

/-!
# Line-oriented configuration files with inline blocks

The syntax of an OpenVPN configuration file, as a client reads it. Each line is read on
its own. A blank line, or one that starts with `#` or `;`, is passed over. A line `<tag>`
opens an inline block, and every line up to one that starts with `</tag>` is its body.
Any other line is a directive. A block that is still open at the end of the file makes
the file unreadable.

`readLines` reads a file's lines into its items, with the open block as its state.
A file written as directives, blocks and passed-over lines is read back block by block:
`readLines_outside` reads a stretch without tags, and `readLines_block` reads a block
whose body has no line that closes it early. A body is the lines of a text
(`split text '\n'`), and it is read back as that text (`readLines_text_block`).
-/

namespace ConfigFile

set_option autoImplicit false

open RustStr

/-- What a reader makes of a file: directives, and inline blocks with their tag and body. -/
inductive Item
  | directive (line : String)
  | inline (tag body : String)
  deriving DecidableEq

def isSkipped (line : String) : Bool :=
  line.toList.all isWhitespace || line.toList.head? == some '#' || line.toList.head? == some ';'

def openTag? (line : String) : Option String :=
  match line.toList with
  | '<' :: inner =>
      if inner.getLast? = some '>' ∧ 2 ≤ inner.length ∧ inner.head? ≠ some '/' then
        some (String.ofList inner.dropLast)
      else none
  | _ => none

def closeLine (tag : String) : String := "</" ++ tag ++ ">"

/-- A line closes the block of `tag` when it starts with `</tag>`. -/
def closes (tag line : String) : Bool := (closeLine tag).toList.isPrefixOf line.toList

/-- A text none of whose lines closes the block of `tag`: it can be that block's body. -/
def Unbroken (tag text : String) : Prop := ∀ line ∈ split text '\n', closes tag line = false

def readLines : Option (String × List String) → List String → Option (List Item)
  | none, [] => some []
  | some _, [] => none
  | none, line :: rest =>
      match openTag? line with
      | some tag => readLines (some (tag, [])) rest
      | none => if isSkipped line then readLines none rest else (readLines none rest).map (.directive line :: ·)
  | some (tag, body), line :: rest =>
      if closes tag line then
        (readLines none rest).map (.inline tag ((String.singleton '\n').intercalate body.reverse) :: ·)
      else readLines (some (tag, line :: body)) rest

/-- The items of a file. -/
def read (text : String) : Option (List Item) := readLines none (split text '\n')

/-- A line that stays on its own and that a reader takes as a directive. -/
structure IsDirective (line : String) : Prop where
  single : '\n' ∉ line.toList
  head : line.toList.head? ≠ some '<'
  kept : isSkipped line = false

/-! ## Reading stretch by stretch -/

theorem readLines_plain {line : String} (rest : List String) (notTag : openTag? line = none) :
    readLines none (line :: rest) =
      if isSkipped line then readLines none rest else (readLines none rest).map (.directive line :: ·) := by
  rw [readLines, notTag]

theorem readLines_none_nil : readLines none [] = some [] := rfl

theorem readLines_skipped {line : String} (rest : List String) (notTag : openTag? line = none)
    (skipped : isSkipped line = true) : readLines none (line :: rest) = readLines none rest := by
  rw [readLines_plain _ notTag, if_pos skipped]

theorem readLines_open {line tag : String} (rest : List String) (opens : openTag? line = some tag) :
    readLines none (line :: rest) = readLines (some (tag, [])) rest := by
  rw [readLines, opens]

theorem readLines_inside (tag line : String) (body rest : List String) :
    readLines (some (tag, body)) (line :: rest) =
      if closes tag line then
        (readLines none rest).map (.inline tag ((String.singleton '\n').intercalate body.reverse) :: ·)
      else readLines (some (tag, line :: body)) rest := rfl

theorem openTag?_of_head {line : String} (head : line.toList.head? ≠ some '<') : openTag? line = none := by
  unfold openTag?
  split
  · rename_i inner chars
    exact absurd (congrArg List.head? chars) head
  · rfl

theorem closes_closeLine (tag : String) : closes tag (closeLine tag) = true := by
  rw [closes, List.isPrefixOf_iff_prefix]

theorem readLines_outside (rest : List String) :
    ∀ pre : List String, (∀ line ∈ pre, openTag? line = none) →
      readLines none (pre ++ rest) =
        (readLines none rest).map ((pre.filter fun line => !isSkipped line).map .directive ++ ·)
  | [], _ => by simp
  | line :: pre, notTags => by
      have later := readLines_outside rest pre fun other member => notTags other (List.mem_cons_of_mem _ member)
      rw [List.cons_append, readLines_plain _ (notTags line List.mem_cons_self), later]
      by_cases skipped : isSkipped line = true
      · simp [skipped]
      · simp only [skipped, Option.map_map, List.filter_cons, Bool.not_false, if_true]
        rfl

theorem readLines_body (tag : String) (rest : List String) :
    ∀ (body acc : List String), (∀ line ∈ body, closes tag line = false) →
      readLines (some (tag, acc)) (body ++ closeLine tag :: rest) =
        (readLines none rest).map (.inline tag ((String.singleton '\n').intercalate (acc.reverse ++ body)) :: ·)
  | [], acc, _ => by
      rw [List.nil_append, readLines_inside, if_pos (closes_closeLine tag), List.append_nil]
  | line :: body, acc, open_ => by
      rw [List.cons_append, readLines_inside, if_neg (by simp [open_ line List.mem_cons_self]),
        readLines_body tag rest body (line :: acc) fun other member => open_ other (List.mem_cons_of_mem _ member)]
      simp

theorem readLines_block {line tag : String} (opens : openTag? line = some tag) (body rest : List String)
    (open_ : ∀ piece ∈ body, closes tag piece = false) :
    readLines none (line :: (body ++ closeLine tag :: rest)) =
      (readLines none rest).map (.inline tag ((String.singleton '\n').intercalate body) :: ·) := by
  rw [readLines_open _ opens, readLines_body tag rest body [] open_]
  rfl

theorem readLines_text_block {line tag : String} (opens : openTag? line = some tag) (text : String)
    (rest : List String) (unbroken : Unbroken tag text) :
    readLines none (line :: (split text '\n' ++ closeLine tag :: rest)) =
      (readLines none rest).map (.inline tag text :: ·) := by
  rw [readLines_block opens _ rest unbroken, intercalate_split]

theorem readLines_written_block {line tag : String} (opens : openTag? line = some tag)
    (lineSingle : '\n' ∉ line.toList) (closeSingle : '\n' ∉ (closeLine tag).toList) (text : String)
    (rest : List String) (unbroken : Unbroken tag text) :
    readLines none ([line, text, closeLine tag].flatMap (split · '\n') ++ rest) =
      (readLines none rest).map (.inline tag text :: ·) := by
  simp only [List.flatMap_cons, List.flatMap_nil, List.append_nil, split_of_not_mem _ lineSingle,
    split_of_not_mem _ closeSingle, List.append_assoc, List.cons_append, List.nil_append]
  exact readLines_text_block opens text rest unbroken

/-! ## Directive lines -/

theorem IsDirective.toList_ne_nil {line : String} (directive : IsDirective line) : line.toList ≠ [] := by
  intro blank
  have kept := directive.kept
  simp [isSkipped, blank] at kept

theorem IsDirective.append {word : String} (directive : IsDirective word) {text : String}
    (single : '\n' ∉ text.toList) : IsDirective (word ++ text) := by
  obtain ⟨first, others, chars⟩ := List.exists_cons_of_ne_nil directive.toList_ne_nil
  have joined : (word ++ text).toList = first :: (others ++ text.toList) := by
    rw [String.toList_append, chars, List.cons_append]
  refine ⟨?_, ?_, ?_⟩
  · rw [String.toList_append, List.mem_append, not_or]
    exact ⟨directive.single, single⟩
  · rw [joined]
    have head := directive.head
    rwa [chars] at head
  · have kept := directive.kept
    simp only [isSkipped, chars, List.all_cons, List.head?_cons, Bool.or_eq_false_iff] at kept
    simp only [isSkipped, joined, List.all_cons, List.all_append, List.head?_cons, Bool.or_eq_false_iff]
    obtain ⟨⟨blank, hash⟩, semicolon⟩ := kept
    refine ⟨⟨?_, hash⟩, semicolon⟩
    rw [Bool.and_eq_false_iff] at blank ⊢
    rcases blank with first | rest
    · exact .inl first
    · exact .inr (by rw [Bool.and_eq_false_iff]; exact .inl rest)

theorem IsDirective.noTag {line : String} (directive : IsDirective line) : openTag? line = none :=
  openTag?_of_head directive.head

theorem readLines_directives (rest : List String) (lines : List String)
    (directives : ∀ line ∈ lines, IsDirective line) :
    readLines none (lines ++ rest) = (readLines none rest).map (lines.map .directive ++ ·) := by
  have kept : lines.filter (fun line => !isSkipped line) = lines :=
    List.filter_eq_self.mpr fun line member => by simp [(directives line member).kept]
  rw [readLines_outside rest lines fun line member => (directives line member).noTag, kept]

end ConfigFile
