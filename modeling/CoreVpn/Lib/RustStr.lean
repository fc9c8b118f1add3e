import CoreVpn.Lib.Framing
import Mathlib.Logic.Encodable.Basic
import Mathlib.Data.List.Infix
import Mathlib.Data.List.TakeWhile

/-!
# Rust string operations over characters

The `str` operations of Rust's standard library that line-oriented text formats are
printed and parsed with, over a string's characters: `char::is_whitespace` (the Unicode
White_Space property), `trim`, `split_whitespace`, `split` at a character, `lines`,
`strip_prefix`, slicing at UTF-8 byte offsets, `u32::from_str`, `u8::from_str_radix`,
decimal and hexadecimal printing, and `slice::chunks`. A slice at an offset inside a
character panics in Rust; `Failure` names that outcome beside an `Err`.

The lemmas are those a round trip through such a format needs: words joined by single
spaces are trimmed to themselves and split back into the words
(`trim_intercalate`, `splitWhitespace_intercalate`), pieces joined by a character none
of them holds split back into the pieces (`split_intercalate`), lines each ended by a
line feed are read back (`lines_delimit`), a printed number parses back (`parseU32_repr`,
`u8FromStrRadix_lowerHexByte`), and over ASCII text every byte offset is a character
boundary (`splitBytes_of_ascii`).

A type's `Display` text with a `FromStr` parser that reads it back is a `TextCodec`; any
type that injects into an encodable one has such a pair (`TextCodec.ofInjective`).
-/

namespace RustStr

set_option autoImplicit false

/-- `char::is_whitespace`: the characters with the Unicode White_Space property. -/
def isWhitespace (c : Char) : Bool :=
  let code := c.toNat
  code == 0x20 || (decide (0x09 ≤ code) && decide (code ≤ 0x0D)) || code == 0x85 || code == 0xA0 ||
    code == 0x1680 || (decide (0x2000 ≤ code) && decide (code ≤ 0x200A)) || code == 0x2028 ||
    code == 0x2029 || code == 0x202F || code == 0x205F || code == 0x3000

/-- `str::trim`: the text without the whitespace at either end. -/
def trim (text : String) : String :=
  String.ofList ((text.toList.dropWhile isWhitespace).reverse.dropWhile isWhitespace).reverse

/-- `str::split_whitespace`: the maximal runs of characters that are not whitespace. -/
def splitWhitespace (text : String) : List String :=
  ((text.toList.splitOnP isWhitespace).filter fun word => !word.isEmpty).map String.ofList

/-- `str::split` at a character. -/
def split (text : String) (separator : Char) : List String :=
  (text.toList.splitOn separator).map String.ofList

def stripPrefix (text pre : String) : Option String :=
  if pre.toList.isPrefixOf text.toList then some (String.ofList (text.toList.drop pre.toList.length))
  else none

def splitnChars (separator : Char) : Nat → List Char → List (List Char)
  | 0, _ => []
  | 1, chars => [chars]
  | count + 2, chars =>
      match chars.span (· != separator) with
      | (front, []) => [front]
      | (front, _ :: rest) => front :: splitnChars separator (count + 1) rest

/-- `str::splitn` at a character. -/
def splitn (text : String) (count : Nat) (separator : Char) : List String :=
  (splitnChars separator count text.toList).map String.ofList

/-- Every character is ASCII: one byte in UTF-8. -/
def IsAscii (text : String) : Prop := ∀ c ∈ text.toList, c.utf8Size = 1

instance : DecidablePred IsAscii := fun text => List.decidableBAll _ text.toList

/-- `str::to_lowercase` on ASCII text, where it lowers `A`–`Z` and keeps every other
character. Elsewhere `str::to_lowercase` follows the Unicode case mapping, which this
does not: a result about lowering a text not known to be ASCII assumes `IsAscii` of it. -/
def toLowercase (text : String) : String := String.ofList (text.toList.map Char.toLower)

def digitsValue (digits : List Char) : Nat :=
  digits.foldl (fun value digit => value * 10 + (digit.toNat - '0'.toNat)) 0

def unsignedDigits : List Char → List Char
  | '+' :: rest => rest
  | chars => chars

/-- `u32::from_str`: an optional `+` and then at least one decimal digit, with a value
below 2^32. -/
def parseU32 (text : String) : Option UInt32 :=
  let digits := unsignedDigits text.toList
  if digits.isEmpty || !digits.all Char.isDigit then none
  else if digitsValue digits < UInt32.size then some (UInt32.ofNat (digitsValue digits))
  else none

/-- `str::lines`: the pieces between line feeds, each without the carriage return that
ends it before its line feed; what follows the last line feed is a line when it is not
empty. -/
def lines (text : String) : List String :=
  let pieces := text.toList.splitOn '\n'
  let ended := pieces.dropLast.map fun line => if line.getLast? = some '\r' then line.dropLast else line
  (ended ++ (pieces.getLast?.filter fun last => !last.isEmpty).toList).map String.ofList

/-- `str::starts_with` for a character. -/
def startsWith (text : String) (c : Char) : Bool := text.toList.head? == some c

/-- `str::len`: the length in UTF-8 bytes. -/
def utf8Len (chars : List Char) : Nat := chars.foldr (fun c bytes => c.utf8Size + bytes) 0

def splitBytes : List Char → Nat → Option (List Char × List Char)
  | chars, 0 => some ([], chars)
  | [], _ + 1 => none
  | c :: rest, count + 1 =>
      if c.utf8Size ≤ count + 1 then
        (splitBytes rest (count + 1 - c.utf8Size)).map fun (front, back) => (c :: front, back)
      else none

/-- `&text[start..stop]` at UTF-8 byte offsets, for `start ≤ stop`; none where Rust
panics, at an offset that is not a character boundary or is past the end. -/
def sliceBytes (chars : List Char) (start stop : Nat) : Option (List Char) := do
  let (_, suffix) ← splitBytes chars start
  let (piece, _) ← splitBytes suffix (stop - start)
  pure piece

/-- `char::to_digit(radix)`, for a radix of at most 36. -/
def toDigit (c : Char) (radix : Nat) : Option Nat :=
  let value :=
    if c.isDigit then some (c.toNat - '0'.toNat)
    else if c.isLower then some (c.toNat - 'a'.toNat + 10)
    else if c.isUpper then some (c.toNat - 'A'.toNat + 10)
    else none
  value.filter (· < radix)

/-- `u8::from_str_radix`: an optional `+` and then at least one digit of the radix, with
a value that stays below 256. -/
def u8FromStrRadix (text : List Char) (radix : Nat) : Option UInt8 :=
  let digits := unsignedDigits text
  if digits.isEmpty then none
  else
    (digits.foldlM (fun value c => (toDigit c radix).bind fun digit =>
        if value * radix + digit < 256 then some (value * radix + digit) else none) 0).map
      UInt8.ofNat

/-- `format!("{:02x}", byte)`: two lowercase hexadecimal digits. -/
def lowerHexByte (byte : UInt8) : String :=
  String.ofList [Nat.digitChar (byte.toNat / 16), Nat.digitChar (byte.toNat % 16)]

/-- `slice::chunks(size)`: pieces of `size` items in order, the last one shorter when
`size` does not divide the length; a size of zero, where Rust panics, gives no pieces. -/
def chunks {α : Type} (size : Nat) : List α → List (List α)
  | [] => []
  | item :: rest =>
      if 0 < size then (item :: rest).take size :: chunks size ((item :: rest).drop size)
      else []
termination_by items => items.length
decreasing_by simp only [List.length_drop, List.length_cons]; omega

/-- `str::replace` over characters: the occurrences of `pattern`, found from the left
without overlapping, each replaced by `replacement`; an empty pattern matches at every
character boundary. -/
def replaceChars (pattern replacement : List Char) : List Char → List Char
  | [] => if pattern = [] then replacement else []
  | c :: rest =>
      if _found : pattern ≠ [] ∧ pattern.isPrefixOf (c :: rest) then
        replacement ++ replaceChars pattern replacement ((c :: rest).drop pattern.length)
      else if pattern = [] then replacement ++ c :: replaceChars pattern replacement rest
      else c :: replaceChars pattern replacement rest
termination_by text => text.length
decreasing_by
  · have nonempty : 0 < pattern.length := List.length_pos_iff.mpr _found.1
    simp only [List.length_drop, List.length_cons]
    omega
  · simp
  · simp

def replace (text pattern replacement : String) : String :=
  String.ofList (replaceChars pattern.toList replacement.toList text.toList)

/-- `str::contains` for a text pattern: some suffix of the text starts with it. -/
def contains (text pattern : String) : Bool :=
  text.toList.tails.any fun tail => pattern.toList.isPrefixOf tail

/-- `str::as_bytes`: the text's UTF-8 bytes. -/
def asBytes (text : String) : List UInt8 := text.toUTF8.data.toList

/-- `std::str::from_utf8`: the text the bytes encode, when they are UTF-8. -/
def fromUtf8 (bytes : List UInt8) : Option String := String.fromUTF8? ⟨bytes.toArray⟩

/-- How a call of Rust code ends when it does not return `Ok`: with an `Err`, or in a
panic. -/
inductive Failure (ε : Type) where
  | err (error : ε)
  | panic
  deriving DecidableEq, Repr

/-! ## Words -/

/-- A word of a whitespace-separated line: not empty, and without whitespace. -/
def IsWord (word : String) : Prop := word ≠ "" ∧ ∀ c ∈ word.toList, isWhitespace c = false

instance : DecidablePred IsWord := fun word =>
  decidable_of_iff (word.toList.isEmpty = false ∧ (word.toList.all fun c => !isWhitespace c) = true) (by
    simp [IsWord])

theorem splitOnP_intercalate {α : Type} (p : α → Bool) (separator : α) (cuts : p separator = true)
    (pieces : List (List α)) (clean : ∀ piece ∈ pieces, ∀ x ∈ piece, p x = false)
    (nonempty : pieces ≠ []) :
    ([separator].intercalate pieces).splitOnP p = pieces := by
  induction pieces with
  | nil => exact absurd rfl nonempty
  | cons piece pieces ih =>
      cases pieces with
      | nil => simpa using List.splitOnP_eq_singleton (clean piece List.mem_cons_self)
      | cons next rest =>
          rw [List.intercalate_cons_cons, List.append_assoc, List.singleton_append,
            List.splitOnP_append_cons_of_forall_mem (clean piece List.mem_cons_self) _ cuts,
            ih (fun other member => clean other (List.mem_cons_of_mem _ member)) (List.cons_ne_nil _ _)]

theorem splitWhitespace_intercalate (words : List String) (isWord : ∀ word ∈ words, IsWord word)
    (nonempty : words ≠ []) : splitWhitespace (" ".intercalate words) = words := by
  have cut := splitOnP_intercalate isWhitespace ' ' (by decide) (words.map String.toList)
    (by
      intro piece member
      obtain ⟨word, wordMember, rfl⟩ := List.mem_map.mp member
      exact (isWord word wordMember).2)
    (by simpa using nonempty)
  have kept : (words.map String.toList).filter (fun word => !word.isEmpty) = words.map String.toList := by
    rw [List.filter_eq_self]
    intro piece member
    obtain ⟨word, wordMember, rfl⟩ := List.mem_map.mp member
    simpa [String.toList_eq_nil_iff] using (isWord word wordMember).1
  rw [splitWhitespace, String.toList_intercalate, show " ".toList = [' '] from rfl, cut, kept,
    List.map_map]
  simp

theorem dropWhile_of_head {α : Type} (p : α → Bool) (items : List α)
    (headKept : ∀ x ∈ items.head?, p x = false) : items.dropWhile p = items := by
  cases items with
  | nil => rfl
  | cons x rest => simp [headKept x rfl]

theorem trim_eq_self (text : String) (headClean : ∀ c ∈ text.toList.head?, isWhitespace c = false)
    (lastClean : ∀ c ∈ text.toList.getLast?, isWhitespace c = false) : trim text = text := by
  rw [trim, dropWhile_of_head _ _ headClean, dropWhile_of_head _ _ (by simpa using lastClean),
    List.reverse_reverse, String.ofList_toList]

theorem not_mem_intercalate {α : Type} {x : α} {separator : List α} (apart : x ∉ separator) :
    ∀ pieces : List (List α), (∀ piece ∈ pieces, x ∉ piece) → x ∉ separator.intercalate pieces
  | [], _ => by simp
  | [piece], clean => by simpa using clean piece List.mem_cons_self
  | piece :: next :: rest, clean => by
      have later := not_mem_intercalate apart (next :: rest) fun other member =>
        clean other (List.mem_cons_of_mem _ member)
      rw [List.intercalate_cons_cons]
      simp only [List.mem_append, not_or]
      exact ⟨⟨clean piece List.mem_cons_self, apart⟩, later⟩

theorem mem_intercalate_of_mem {α : Type} {x : α} (separator : List α) :
    ∀ {pieces : List (List α)} {piece : List α}, piece ∈ pieces → x ∈ piece → x ∈ separator.intercalate pieces
  | [], _, member, _ => absurd member List.not_mem_nil
  | [only], piece, member, inside => by
      rw [List.mem_singleton.mp member] at inside
      simpa using inside
  | first :: next :: rest, piece, member, inside => by
      rw [List.intercalate_cons_cons]
      rcases List.mem_cons.mp member with rfl | later
      · exact List.mem_append_left _ (List.mem_append_left _ inside)
      · exact List.mem_append_right _ (mem_intercalate_of_mem separator later inside)

theorem head?_intercalate {α : Type} (separator : α) (piece : List α) (pieces : List (List α))
    (nonempty : piece ≠ []) : ([separator].intercalate (piece :: pieces)).head? = piece.head? := by
  cases pieces with
  | nil => simp
  | cons next rest => rw [List.intercalate_cons_cons, List.append_assoc, List.head?_append_of_ne_nil _ nonempty]

theorem getLast?_intercalate {α : Type} (separator : α) (pieces : List (List α))
    (nonempty : ∀ piece ∈ pieces, piece ≠ []) :
    ([separator].intercalate pieces).getLast? = pieces.getLast?.bind List.getLast? := by
  induction pieces with
  | nil => rfl
  | cons piece pieces ih =>
      cases pieces with
      | nil => simp
      | cons next rest =>
          have later : [separator].intercalate (next :: rest) ≠ [] := by
            intro empty
            have heads := head?_intercalate separator next rest (nonempty next (by simp))
            rw [empty, List.head?_nil, eq_comm, List.head?_eq_none_iff] at heads
            exact nonempty next (by simp) heads
          rw [List.intercalate_cons_cons, List.getLast?_append_of_ne_nil _ later,
            ih (fun other member => nonempty other (List.mem_cons_of_mem _ member)),
            List.getLast?_cons_cons]

theorem trim_intercalate (words : List String) (isWord : ∀ word ∈ words, IsWord word)
    (nonempty : words ≠ []) : trim (" ".intercalate words) = " ".intercalate words := by
  have chars : ∀ piece ∈ words.map String.toList, piece ≠ [] := by
    intro piece member
    obtain ⟨word, wordMember, rfl⟩ := List.mem_map.mp member
    simpa [String.toList_eq_nil_iff] using (isWord word wordMember).1
  have clean : ∀ piece ∈ words.map String.toList, ∀ c ∈ piece, isWhitespace c = false := by
    intro piece member
    obtain ⟨word, wordMember, rfl⟩ := List.mem_map.mp member
    exact (isWord word wordMember).2
  apply trim_eq_self
  · obtain ⟨word, rest, rfl⟩ := List.exists_cons_of_ne_nil nonempty
    rw [String.toList_intercalate, show " ".toList = [' '] from rfl, List.map_cons,
      head?_intercalate _ _ _ (chars _ List.mem_cons_self)]
    intro c first
    exact clean _ List.mem_cons_self c (List.mem_of_mem_head? first)
  · rw [String.toList_intercalate, show " ".toList = [' '] from rfl, getLast?_intercalate _ _ chars]
    intro c last
    obtain ⟨piece, lastPiece, lastChar⟩ := Option.mem_bind_iff.mp last
    exact clean piece (List.mem_of_getLast? lastPiece) c (List.mem_of_getLast? lastChar)

theorem forall_mem_of_all {α : Type} {p : α → Prop} [DecidablePred p] {items : List α}
    (checked : items.all (fun item => decide (p item)) = true) : ∀ item ∈ items, p item :=
  fun item member => of_decide_eq_true (List.all_eq_true.mp checked item member)

/-! ## Pieces and prefixes -/

theorem split_intercalate (pieces : List String) (separator : Char)
    (clean : ∀ piece ∈ pieces, separator ∉ piece.toList) (nonempty : pieces ≠ []) :
    split ((String.singleton separator).intercalate pieces) separator = pieces := by
  have pieceClean : ∀ piece ∈ pieces.map String.toList, separator ∉ piece := by
    intro piece member
    obtain ⟨original, originalMember, rfl⟩ := List.mem_map.mp member
    exact clean original originalMember
  have cut := List.splitOn_intercalate separator pieceClean (by simpa using nonempty)
  rw [split, String.toList_intercalate, String.toList_singleton, cut, List.map_map]
  simp

theorem split_of_not_mem (text : String) {separator : Char} (absent : separator ∉ text.toList) :
    split text separator = [text] := by
  have whole := split_intercalate [text] separator (fun piece member => by
    rw [List.mem_singleton.mp member]
    exact absent) (List.cons_ne_nil _ _)
  rwa [String.intercalate_singleton] at whole

theorem split_append_singleton_append (front back : String) (separator : Char) :
    split (front ++ String.singleton separator ++ back) separator = split front separator ++ split back separator := by
  have chars : (front ++ String.singleton separator ++ back).toList = front.toList ++ separator :: back.toList := by
    simp [String.toList_append]
  rw [split, chars, List.splitOn_eq_splitOnP,
    List.splitOnP_append_cons (p := fun c => c == separator) _ _ (beq_self_eq_true separator)]
  simp [split, List.splitOn_eq_splitOnP]

theorem split_intercalate_flatMap (separator : Char) :
    ∀ pieces : List String, pieces ≠ [] →
      split ((String.singleton separator).intercalate pieces) separator = pieces.flatMap (split · separator)
  | [], nonempty => absurd rfl nonempty
  | [piece], _ => by simp
  | piece :: next :: rest, _ => by
      rw [String.intercalate_cons_cons, split_append_singleton_append,
        split_intercalate_flatMap separator (next :: rest) (List.cons_ne_nil _ _)]
      simp only [List.flatMap_cons]

theorem flatMap_split_of_not_mem {separator : Char} :
    ∀ pieces : List String, (∀ piece ∈ pieces, separator ∉ piece.toList) → pieces.flatMap (split · separator) = pieces
  | [], _ => rfl
  | piece :: pieces, clean => by
      rw [List.flatMap_cons, split_of_not_mem piece (clean piece List.mem_cons_self),
        flatMap_split_of_not_mem pieces fun other member => clean other (List.mem_cons_of_mem _ member)]
      rfl

theorem intercalate_split (text : String) (separator : Char) :
    (String.singleton separator).intercalate (split text separator) = text := by
  apply String.ext
  rw [split, String.toList_intercalate, List.map_map, String.toList_singleton]
  simp [List.intercalate_splitOn]

theorem lines_delimit (texts : List String)
    (clean : ∀ text ∈ texts, '\n' ∉ text.toList ∧ text.toList.getLast? ≠ some '\r') :
    lines (String.ofList (Framing.delimit '\n' (texts.map String.toList))) = texts := by
  have dropped : ((Framing.delimit '\n' (texts.map String.toList)).splitOn '\n').dropLast =
      texts.map String.toList := by
    apply (Framing.frames_delimit_eq_iff '\n' (texts.map String.toList)).mpr
    simp only [List.mem_map]
    rintro _ ⟨text, member, rfl⟩
    exact (clean text member).1
  have last : ((Framing.delimit '\n' (texts.map String.toList)).splitOn '\n').getLast? = some [] := by
    rw [Framing.splitOn_delimit, List.getLast?_concat]
  have kept : ∀ text ∈ texts, (String.ofList ∘
      (fun line => if line.getLast? = some '\r' then line.dropLast else line) ∘ String.toList) text =
        id text := by
    intro text member
    simp only [Function.comp_apply, if_neg (clean text member).2, String.ofList_toList, id]
  simp only [lines, String.toList_ofList, dropped, last, List.map_map, List.map_congr_left kept,
    List.map_id, Option.filter_some, List.isEmpty_nil, Bool.not_true, Bool.false_eq_true, if_false,
    Option.toList_none, List.append_nil]

theorem mem_of_mem_trim {text : String} {c : Char} (inside : c ∈ (trim text).toList) : c ∈ text.toList := by
  rw [trim, String.toList_ofList, List.mem_reverse] at inside
  have kept := (List.dropWhile_sublist _).subset inside
  rw [List.mem_reverse] at kept
  exact (List.dropWhile_sublist _).subset kept

theorem mem_of_mem_lines {text line : String} {c : Char} (member : line ∈ lines text)
    (inside : c ∈ line.toList) : c ∈ text.toList := by
  have pieces : ∀ piece ∈ text.toList.splitOn '\n', c ∈ piece → c ∈ text.toList := by
    intro piece found within
    have whole : ['\n'].intercalate (text.toList.splitOn '\n') = text.toList := List.intercalate_splitOn '\n'
    rw [← whole]
    exact mem_intercalate_of_mem _ found within
  simp only [lines, List.mem_map, List.mem_append, Option.mem_toList, Option.filter_eq_some_iff] at member
  obtain ⟨piece, found, rfl⟩ := member
  rw [String.toList_ofList] at inside
  rcases found with ⟨whole, ended, cut⟩ | ⟨last, -⟩
  · apply pieces whole (List.dropLast_subset _ ended)
    subst cut
    split at inside
    · exact List.dropLast_subset _ inside
    · exact inside
  · exact pieces piece (List.mem_of_getLast? last) inside

theorem stripPrefix_append (pre rest : String) : stripPrefix (pre ++ rest) pre = some rest := by
  have isPrefix : pre.toList.isPrefixOf (pre ++ rest).toList = true := by
    rw [List.isPrefixOf_iff_prefix, String.toList_append]
    exact List.prefix_append _ _
  rw [stripPrefix, if_pos isPrefix, String.toList_append, List.drop_left, String.ofList_toList]

theorem eq_append_of_stripPrefix {text pre rest : String} (stripped : stripPrefix text pre = some rest) :
    text = pre ++ rest := by
  unfold stripPrefix at stripped
  split at stripped
  · rename_i isPrefix
    cases stripped
    apply String.ext
    rw [String.toList_append, String.toList_ofList]
    exact (List.prefix_iff_eq_append.mp (List.isPrefixOf_iff_prefix.mp isPrefix)).symm
  · cases stripped

theorem span_append_of_not_mem (separator : Char) {front : List Char} (absent : separator ∉ front)
    (rest : List Char) :
    (front ++ separator :: rest).span (· != separator) = (front, separator :: rest) := by
  have others : ∀ c ∈ front, (c != separator) = true := fun c member =>
    bne_iff_ne.mpr fun same => absent (same ▸ member)
  rw [List.span_eq_takeWhile_dropWhile, List.takeWhile_append_of_pos others, List.dropWhile_append_of_pos others,
    List.takeWhile_cons_of_neg (by simp), List.dropWhile_cons_of_neg (by simp), List.append_nil]

theorem splitn_two_of_not_mem (text : String) {separator : Char} (absent : separator ∉ text.toList) :
    splitn text 2 separator = [text] := by
  have whole : text.toList.span (· != separator) = (text.toList, []) := by
    rw [List.span_eq_takeWhile_dropWhile, List.takeWhile_eq_self_iff.mpr, List.dropWhile_eq_nil_iff.mpr]
    all_goals
      intro c member
      exact bne_iff_ne.mpr fun same => absent (same ▸ member)
  rw [splitn, splitnChars, whole]
  simp

theorem splitn_two_append (front rest : String) {separator : Char} (absent : separator ∉ front.toList) :
    splitn (front ++ String.singleton separator ++ rest) 2 separator = [front, rest] := by
  have chars : (front ++ String.singleton separator ++ rest).toList = front.toList ++ separator :: rest.toList := by
    simp [String.toList_append]
  rw [splitn, chars, splitnChars, span_append_of_not_mem separator absent]
  simp [splitnChars]

theorem splitn_two_cases (text : String) (separator : Char) :
    splitn text 2 separator = [text] ∨
      ∃ front rest, separator ∉ front.toList ∧ text = front ++ String.singleton separator ++ rest ∧
        splitn text 2 separator = [front, rest] := by
  have joined : text.toList.takeWhile (· != separator) ++ text.toList.dropWhile (· != separator) = text.toList :=
    List.takeWhile_append_dropWhile
  have absent : separator ∉ text.toList.takeWhile (· != separator) := fun member => by
    simpa using List.mem_takeWhile_imp member
  have stops := List.head_dropWhile_not (· != separator) (l := text.toList)
  unfold splitn
  rw [splitnChars, List.span_eq_takeWhile_dropWhile]
  generalize text.toList.dropWhile (· != separator) = tail at joined stops ⊢
  cases tail with
  | nil =>
      left
      rw [List.append_nil] at joined
      simp [joined]
  | cons c rest =>
      have stop : c = separator := by simpa using stops (List.cons_ne_nil c rest)
      subst stop
      right
      refine ⟨String.ofList (text.toList.takeWhile (· != c)), String.ofList rest, by simpa using absent, ?_, ?_⟩
      · apply String.ext
        rw [String.toList_append, String.toList_append, String.toList_ofList, String.toList_singleton,
          String.toList_ofList, List.append_assoc, List.singleton_append]
        exact joined.symm
      · simp [splitnChars]

/-! ## Numbers -/

theorem digitChar_toNat (n : Nat) (small : n < 10) : n.digitChar.toNat = '0'.toNat + n := by
  have all : ∀ m < 10, m.digitChar.toNat = '0'.toNat + m := by decide
  exact all n small

theorem digitsValue_toDigits (n : Nat) : digitsValue (Nat.toDigits 10 n) = n := by
  induction n using Nat.strongRecOn with
  | ind n ih =>
      by_cases small : n < 10
      · rw [Nat.toDigits_of_lt_base small, digitsValue, List.foldl_cons, List.foldl_nil,
          digitChar_toNat n small]
        omega
      · rw [Nat.toDigits_of_base_le (by decide) (by omega), digitsValue, List.foldl_append,
          ← digitsValue, ih (n / 10) (by omega), List.foldl_cons, List.foldl_nil,
          digitChar_toNat _ (Nat.mod_lt _ (by decide))]
        omega

theorem toList_toString (n : Nat) : (toString n).toList = Nat.toDigits 10 n := by
  rw [Nat.toString_eq_ofList_toDigits, String.toList_ofList]

theorem isDigit_of_mem_toString {n : Nat} {c : Char} (member : c ∈ (toString n).toList) :
    c.isDigit = true := by
  rw [toList_toString] at member
  exact Nat.isDigit_of_mem_toDigits (by decide) (by decide) member

theorem not_mem_toString {c : Char} (n : Nat) (notDigit : c.isDigit = false) : c ∉ (toString n).toList :=
  fun member => Bool.false_ne_true (notDigit ▸ isDigit_of_mem_toString member)

theorem isWord_toString (n : Nat) : IsWord (toString n) := by
  refine ⟨fun empty => Nat.toDigits_ne_nil (by rw [← toList_toString, empty]; rfl), fun c member => ?_⟩
  have range := Char.isDigit_iff_toNat.mp (isDigit_of_mem_toString member)
  have low : 48 ≤ c.toNat := range.1
  have high : c.toNat ≤ 57 := range.2
  simp only [isWhitespace]
  simp only [Bool.or_eq_false_iff, beq_eq_false_iff_ne, ne_eq, Bool.and_eq_false_imp,
    decide_eq_true_eq, decide_eq_false_iff_not]
  omega

@[simp]
theorem parseU32_repr (n : UInt32) : parseU32 n.toNat.repr = some n := by
  have allDigits : ∀ c ∈ Nat.toDigits 10 n.toNat, c.isDigit = true := by
    intro c member
    rw [← toList_toString] at member
    exact isDigit_of_mem_toString member
  have unsigned : unsignedDigits (Nat.toDigits 10 n.toNat) = Nat.toDigits 10 n.toNat := by
    unfold unsignedDigits
    split
    · rename_i rest same
      have plus := allDigits '+' (by rw [same]; exact List.mem_cons_self)
      exact absurd plus (by decide)
    · rfl
  have nonempty : (Nat.toDigits 10 n.toNat).isEmpty = false := by
    simp [Nat.toDigits_ne_nil]
  simp only [parseU32, ← Nat.toString_eq_repr, toList_toString, unsigned, nonempty, List.all_eq_true.mpr allDigits, Bool.not_true,
    Bool.or_false, Bool.false_eq_true, if_false, digitsValue_toDigits, if_pos n.toNat_lt_size]
  simp

theorem digitChar_ne_plus : ∀ n < 16, Nat.digitChar n ≠ '+' := by decide

theorem toDigit_digitChar : ∀ n < 16, toDigit (Nat.digitChar n) 16 = some n := by decide

theorem utf8Size_digitChar : ∀ n < 16, (Nat.digitChar n).utf8Size = 1 := by decide

theorem unsignedDigits_cons_of_ne {c : Char} (rest : List Char) (unsigned : c ≠ '+') :
    unsignedDigits (c :: rest) = c :: rest := by
  unfold unsignedDigits
  split
  · rename_i same
    exact absurd (List.cons.inj same).1 unsigned
  · rfl

theorem u8FromStrRadix_lowerHexByte (byte : UInt8) :
    u8FromStrRadix (lowerHexByte byte).toList 16 = some byte := by
  have high : byte.toNat / 16 < 16 := by have := byte.toNat_lt; omega
  have low : byte.toNat % 16 < 16 := Nat.mod_lt _ (by decide)
  have value : byte.toNat / 16 * 16 + byte.toNat % 16 < 256 := by have := byte.toNat_lt; omega
  simp only [u8FromStrRadix, lowerHexByte, String.toList_ofList,
    unsignedDigits_cons_of_ne _ (digitChar_ne_plus _ high), List.isEmpty_cons, Bool.false_eq_true,
    if_false, List.foldlM_cons, List.foldlM_nil, toDigit_digitChar _ high, toDigit_digitChar _ low,
    Option.bind_eq_bind, Option.bind_some, Nat.zero_mul, Nat.zero_add,
    if_pos (show byte.toNat / 16 < 256 by omega), if_pos value, Option.pure_def, Option.map_some]
  rw [Nat.div_add_mod' byte.toNat 16, UInt8.ofNat_toNat]

/-! ## Byte offsets -/

theorem utf8Len_of_ascii (chars : List Char) (ascii : ∀ c ∈ chars, c.utf8Size = 1) :
    utf8Len chars = chars.length := by
  induction chars with
  | nil => rfl
  | cons c rest ih =>
      rw [utf8Len, List.foldr_cons, ← utf8Len, ih fun d member => ascii d (List.mem_cons_of_mem _ member),
        ascii c List.mem_cons_self, List.length_cons, Nat.add_comm]

theorem splitBytes_of_ascii (chars : List Char) (ascii : ∀ c ∈ chars, c.utf8Size = 1) (count : Nat)
    (within : count ≤ chars.length) : splitBytes chars count = some (chars.take count, chars.drop count) := by
  induction chars generalizing count with
  | nil =>
      obtain rfl : count = 0 := by simpa using within
      rfl
  | cons c rest ih =>
      cases count with
      | zero => rfl
      | succ count =>
          have one := ascii c List.mem_cons_self
          have later := ih (fun d member => ascii d (List.mem_cons_of_mem _ member)) count
            (by simp only [List.length_cons] at within; omega)
          rw [splitBytes, if_pos (by omega), one, Nat.add_sub_cancel, later]
          rfl

theorem sliceBytes_of_ascii (chars : List Char) (ascii : ∀ c ∈ chars, c.utf8Size = 1) {start stop : Nat}
    (ordered : start ≤ stop) (within : stop ≤ chars.length) :
    sliceBytes chars start stop = some ((chars.drop start).take (stop - start)) := by
  have rest : ∀ c ∈ chars.drop start, c.utf8Size = 1 := fun c member => ascii c (List.mem_of_mem_drop member)
  simp only [sliceBytes, splitBytes_of_ascii chars ascii start (by omega), Option.bind_eq_bind,
    Option.bind_some, splitBytes_of_ascii _ rest (stop - start) (by simp only [List.length_drop]; omega),
    Option.pure_def]

/-! ## Chunks -/

theorem flatten_chunks {α : Type} (size : Nat) (items : List α) (positive : 0 < size) :
    (chunks size items).flatten = items := by
  fun_induction chunks size items with
  | case1 => rfl
  | case2 item rest _ ih => rw [List.flatten_cons, ih, List.take_append_drop]
  | case3 => omega

theorem mem_chunks {α : Type} {size : Nat} {items : List α} {chunk : List α}
    (member : chunk ∈ chunks size items) : chunk ≠ [] ∧ chunk.length ≤ size := by
  fun_induction chunks size items with
  | case1 => simp at member
  | case2 item rest positive ih =>
      rcases List.mem_cons.mp member with rfl | later
      · exact ⟨by simp [List.take_eq_nil_iff]; omega, List.length_take_le _ _⟩
      · exact ih later
  | case3 => simp at member

/-! ## Replacing and encoding -/

theorem replaceChars_of_not_infix (pattern replacement text : List Char) (absent : ¬ pattern <:+: text) :
    replaceChars pattern replacement text = text := by
  fun_induction replaceChars pattern replacement text with
  | case1 empty => exact absurd (empty ▸ List.nil_infix) absent
  | case2 => rfl
  | case3 c rest found _ => exact absurd (List.isPrefixOf_iff_prefix.mp found.2).isInfix absent
  | case4 c rest _ empty _ => exact absurd (empty ▸ List.nil_infix) absent
  | case5 c rest _ _ ih => rw [ih fun inRest => absent (List.infix_cons inRest)]

theorem contains_iff (text pattern : String) : contains text pattern = true ↔ pattern.toList <:+: text.toList := by
  simp only [contains, List.any_eq_true, List.mem_tails, List.isPrefixOf_iff_prefix, List.infix_iff_prefix_suffix]
  constructor
  · rintro ⟨tail, suffix, pre⟩
    exact ⟨tail, pre, suffix⟩
  · rintro ⟨tail, pre, suffix⟩
    exact ⟨tail, suffix, pre⟩

theorem replace_of_not_infix (text pattern replacement : String) (absent : ¬ pattern.toList <:+: text.toList) :
    replace text pattern replacement = text := by
  rw [replace, replaceChars_of_not_infix _ _ _ absent, String.ofList_toList]

@[simp] theorem asBytes_append (a b : String) : asBytes (a ++ b) = asBytes a ++ asBytes b := by
  simp [asBytes]

theorem fromUtf8_asBytes (text : String) : fromUtf8 (asBytes text) = some text := by
  have bytes : (⟨(asBytes text).toArray⟩ : ByteArray) = text.toUTF8 := by
    rw [asBytes, Array.toArray_toList]
  rw [fromUtf8, bytes, String.fromUTF8?, dif_pos (by exact text.isValidUTF8)]
  rfl

theorem asBytes_of_fromUtf8 {bytes : List UInt8} {text : String} (decoded : fromUtf8 bytes = some text) :
    asBytes text = bytes := by
  unfold fromUtf8 String.fromUTF8? at decoded
  split at decoded
  · cases decoded
    rfl
  · cases decoded

theorem asBytes_injective : Function.Injective asBytes := fun first second same => by
  have readBack := fromUtf8_asBytes first
  rw [same, fromUtf8_asBytes] at readBack
  exact (Option.some.inj readBack).symm

theorem flatMap_asBytes_delimit (texts : List String) :
    texts.flatMap (fun text => asBytes text ++ asBytes "\n") =
      asBytes (String.ofList (Framing.delimit '\n' (texts.map String.toList))) := by
  induction texts with
  | nil => rfl
  | cons text texts ih =>
      rw [List.flatMap_cons, ih, List.map_cons, Framing.delimit_cons, ← List.singleton_append,
        String.ofList_append, String.ofList_append, String.ofList_toList, asBytes_append, asBytes_append,
        List.append_assoc]

/-! ## Display and FromStr -/

/-- A type's text form with a parser that reads it back. -/
structure TextCodec (α : Type) where
  render : α → String
  parse : String → Option α
  parse_render : ∀ value, parse (render value) = some value

attribute [simp] TextCodec.parse_render

namespace TextCodec

variable {α : Type}

def ofEncodable [Encodable α] : TextCodec α where
  render value := toString (Encodable.encode value)
  parse text := Encodable.decode (digitsValue text.toList)
  parse_render value := by
    rw [toList_toString, digitsValue_toDigits, Encodable.encodek]

noncomputable def ofInjective {β : Type} [Encodable β] (f : α → β) (injective : Function.Injective f) :
    TextCodec α :=
  @ofEncodable α (Encodable.ofInj f injective)

end TextCodec

end RustStr
