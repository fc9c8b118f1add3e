import CoreVpn.Lib.RustStr

/-!
# Percent-encoding and URL queries (RFC 3986 §2.1, §2.3, §3.4)

`urlencoding::encode` writes a text's UTF-8 bytes, each unreserved byte (an ASCII letter
or digit, `-`, `.`, `_` or `~`) as its character and every other byte as `%` and two
upper-case hexadecimal digits. A receiver reads a URL's query as the text after the first
`?` and before any `#`. It splits the query into `&`-separated pairs, splits each pair at
its first `=`, and percent-decodes both halves.

Decoding gives back what was encoded (`decode_encode`). An encoding holds only unreserved
characters and `%` (`mem_encode`), so it never holds a `&`, `=`, `?` or `#` that would
end a value early. A query rendered from pairs whose names are clean reads back to the
decoded pairs (`readQuery_render`).
-/

namespace PercentEncoding

set_option autoImplicit false

open RustStr

def isUnreserved (byte : UInt8) : Bool :=
  let n := byte.toNat
  (decide (48 ≤ n) && decide (n ≤ 57)) || (decide (65 ≤ n) && decide (n ≤ 90)) ||
    (decide (97 ≤ n) && decide (n ≤ 122)) || n == 45 || n == 46 || n == 95 || n == 126

def unreservedChars : List Char :=
  "ABCDEFGHIJKLMNOPQRSTUVWXYZabcdefghijklmnopqrstuvwxyz0123456789-._~".toList

/-- `to_hex_digit`: an upper-case hexadecimal digit. -/
def hexDigit (digit : Nat) : Char :=
  if digit < 10 then Char.ofNat (48 + digit) else Char.ofNat (55 + digit)

def encodeByte (byte : UInt8) : List Char :=
  if isUnreserved byte then [Char.ofNat byte.toNat]
  else ['%', hexDigit (byte.toNat / 16), hexDigit (byte.toNat % 16)]

def encode (text : String) : String := String.ofList ((asBytes text).flatMap encodeByte)

def hexValue (c : Char) : Option Nat :=
  let n := c.toNat
  if 48 ≤ n ∧ n ≤ 57 then some (n - 48)
  else if 65 ≤ n ∧ n ≤ 70 then some (n - 55)
  else if 97 ≤ n ∧ n ≤ 102 then some (n - 87)
  else none

def decodeChars : List Char → Option (List UInt8)
  | [] => some []
  | c :: rest =>
      if c = '%' then
        match rest with
        | high :: low :: after => do
            let h ← hexValue high
            let l ← hexValue low
            let tail ← decodeChars after
            pure (UInt8.ofNat (h * 16 + l) :: tail)
        | _ => none
      else if c.toNat < 128 then (decodeChars rest).map (UInt8.ofNat c.toNat :: ·)
      else none

def decode (text : String) : Option String := (decodeChars text.toList).bind fromUtf8

theorem decodeChars_cons_of_ne {c : Char} (rest : List Char) (notEscape : c ≠ '%') :
    decodeChars (c :: rest) = if c.toNat < 128 then (decodeChars rest).map (UInt8.ofNat c.toNat :: ·) else none := by
  rw [decodeChars.eq_def]
  simp only [if_neg notEscape]

theorem decodeChars_escape (high low : Char) (after : List Char) :
    decodeChars ('%' :: high :: low :: after) =
      (hexValue high).bind fun h => (hexValue low).bind fun l =>
        (decodeChars after).map (UInt8.ofNat (h * 16 + l) :: ·) := by
  rw [decodeChars.eq_def]
  simp only [if_true, Option.bind_eq_bind, Option.pure_def]
  cases hexValue high <;> cases hexValue low <;> cases decodeChars after <;> rfl

/-! ## Bytes and their characters -/

theorem utf8EncodeChar_of_lt {c : Char} (ascii : c.toNat < 128) : String.utf8EncodeChar c = [UInt8.ofNat c.toNat] := by
  have same : c.val.toNat = c.toNat := rfl
  unfold String.utf8EncodeChar
  rw [if_pos (by omega), same]

theorem asBytes_eq_flatMap (text : String) : asBytes text = text.toList.flatMap String.utf8EncodeChar := by
  rw [asBytes, String.toUTF8_eq_toByteArray, ← String.utf8Encode_toList]
  simp [List.utf8Encode]

theorem unreserved_char : ∀ n < 256, isUnreserved (UInt8.ofNat n) = true →
    (Char.ofNat n).toNat < 128 ∧ UInt8.ofNat (Char.ofNat n).toNat = UInt8.ofNat n ∧ Char.ofNat n ≠ '%' ∧
      Char.ofNat n ∈ unreservedChars := by
  decide +kernel

theorem plain_of_unreserved : ∀ c ∈ unreservedChars, c.toNat < 128 ∧ c ≠ '%' :=
  forall_mem_of_all (by decide)

theorem hexValue_hexDigit : ∀ digit < 16, hexValue (hexDigit digit) = some digit ∧ hexDigit digit ∈ unreservedChars := by
  decide

/-! ## Reading an encoding back -/

theorem decodeChars_encodeBytes (bytes : List UInt8) (rest : List Char) :
    decodeChars (bytes.flatMap encodeByte ++ rest) = (decodeChars rest).map (bytes ++ ·) := by
  induction bytes with
  | nil => simp
  | cons byte bytes ih =>
      have small := byte.toNat_lt
      rw [List.flatMap_cons, List.append_assoc, encodeByte]
      split
      · -- an unreserved byte is its own character
        rename_i unreserved
        obtain ⟨ascii, readBack, plain, -⟩ := unreserved_char byte.toNat small (by rwa [UInt8.ofNat_toNat])
        rw [UInt8.ofNat_toNat] at readBack
        rw [List.singleton_append, decodeChars_cons_of_ne _ plain, if_pos ascii, ih, readBack, Option.map_map]
        rfl
      · -- any other byte is an escape of two digits
        obtain ⟨high, -⟩ := hexValue_hexDigit (byte.toNat / 16) (by omega)
        obtain ⟨low, -⟩ := hexValue_hexDigit (byte.toNat % 16) (by omega)
        have value : UInt8.ofNat (byte.toNat / 16 * 16 + byte.toNat % 16) = byte := by
          rw [Nat.div_add_mod' byte.toNat 16, UInt8.ofNat_toNat]
        rw [List.cons_append, List.cons_append, List.cons_append, List.nil_append, decodeChars_escape, high, low,
          Option.bind_some, Option.bind_some, ih, Option.map_map, value]
        rfl

theorem decode_encode (text : String) : decode (encode text) = some text := by
  have readBack := decodeChars_encodeBytes (asBytes text) []
  rw [List.append_nil] at readBack
  rw [decode, encode, String.toList_ofList, readBack]
  simp [decodeChars, fromUtf8_asBytes]

theorem mem_encode {text : String} {c : Char} (member : c ∈ (encode text).toList) :
    c = '%' ∨ c ∈ unreservedChars := by
  rw [encode, String.toList_ofList, List.mem_flatMap] at member
  obtain ⟨byte, -, inside⟩ := member
  have small := byte.toNat_lt
  rw [encodeByte] at inside
  split at inside
  · rename_i unreserved
    obtain ⟨-, -, -, listed⟩ := unreserved_char byte.toNat small (by rwa [UInt8.ofNat_toNat])
    rw [List.mem_singleton] at inside
    exact .inr (inside ▸ listed)
  · simp only [List.mem_cons, List.not_mem_nil, or_false] at inside
    rcases inside with rfl | rfl | rfl
    · exact .inl rfl
    · exact .inr (hexValue_hexDigit _ (by omega)).2
    · exact .inr (hexValue_hexDigit _ (by omega)).2

theorem decodeChars_plain (chars rest : List Char) (plain : ∀ c ∈ chars, c.toNat < 128 ∧ c ≠ '%') :
    decodeChars (chars ++ rest) = (decodeChars rest).map (chars.flatMap String.utf8EncodeChar ++ ·) := by
  induction chars with
  | nil => simp
  | cons c chars ih =>
      obtain ⟨ascii, notEscape⟩ := plain c List.mem_cons_self
      rw [List.cons_append, decodeChars_cons_of_ne _ notEscape, if_pos ascii,
        ih fun other member => plain other (List.mem_cons_of_mem c member), Option.map_map,
        List.flatMap_cons, utf8EncodeChar_of_lt ascii]
      rfl

theorem decode_of_plain (text : String) (plain : ∀ c ∈ text.toList, c.toNat < 128 ∧ c ≠ '%') :
    decode text = some text := by
  have readBack := decodeChars_plain text.toList [] plain
  rw [List.append_nil] at readBack
  rw [decode, readBack, ← asBytes_eq_flatMap]
  simp [decodeChars, fromUtf8_asBytes]

theorem decode_of_unreserved (text : String) (clean : ∀ c ∈ text.toList, c ∈ unreservedChars) :
    decode text = some text :=
  decode_of_plain text fun c member => plain_of_unreserved c (clean c member)

/-! ## Reading a URL's query -/

def urlQuery (url : String) : Option String :=
  match splitn (String.ofList (url.toList.takeWhile (· != '#'))) 2 '?' with
  | [_, query] => some query
  | _ => none

def readPair (pair : String) : Option (String × String) := do
  let halves := splitn pair 2 '='
  let name ← decode (halves.getD 0 "")
  let value ← decode (halves.getD 1 "")
  pure (name, value)

def readQuery (query : String) : Option (List (String × String)) := (split query '&').mapM readPair

def renderQuery (pairs : List (String × String)) : String :=
  (String.singleton '&').intercalate (pairs.map fun pair => pair.1 ++ "=" ++ pair.2)

theorem readPair_render (name value : String) (clean : '=' ∉ name.toList) :
    readPair (name ++ "=" ++ value) = (decode name).bind fun name => (decode value).map (name, ·) := by
  have joined : name ++ "=" ++ value = name ++ String.singleton '=' ++ value := rfl
  rw [readPair, joined, splitn_two_append _ _ clean]
  simp only [List.getD_cons_zero, List.getD_cons_succ]
  cases decode name <;> cases decode value <;> rfl

theorem readQuery_render (pairs : List (String × String)) (nonempty : pairs ≠ [])
    (clean : ∀ pair ∈ pairs, '&' ∉ pair.1.toList ∧ '&' ∉ pair.2.toList) :
    readQuery (renderQuery pairs) = pairs.mapM fun pair => readPair (pair.1 ++ "=" ++ pair.2) := by
  have pieces : split (renderQuery pairs) '&' = pairs.map fun pair => pair.1 ++ "=" ++ pair.2 := by
    apply split_intercalate _ _ _ (by simpa using nonempty)
    intro piece member
    obtain ⟨pair, listed, rfl⟩ := List.mem_map.mp member
    obtain ⟨nameClean, valueClean⟩ := clean pair listed
    simp only [String.toList_append, List.mem_append, not_or]
    exact ⟨⟨nameClean, by decide⟩, valueClean⟩
  rw [readQuery, pieces, List.mapM_map]
  rfl

/-! ## Queries of encoded values -/

/-- A pair with its value percent-encoded. -/
def encodeValue (pair : String × String) : String × String := (pair.1, encode pair.2)

/-- A name made of unreserved characters. -/
def IsPlainName (name : String) : Prop := ∀ c ∈ name.toList, c ∈ unreservedChars

instance isPlainNameDecidable (name : String) : Decidable (IsPlainName name) :=
  decidable_of_iff (name.toList.all unreservedChars.contains = true) (by simp [IsPlainName, List.all_eq_true])

theorem not_mem_of_isPlainName {name : String} (plain : IsPlainName name) {c : Char}
    (reserved : c ∉ unreservedChars) : c ∉ name.toList := fun member => reserved (plain c member)

theorem not_mem_encode (text : String) {c : Char} (notEscape : c ≠ '%') (reserved : c ∉ unreservedChars) :
    c ∉ (encode text).toList := fun member => (mem_encode member).elim notEscape reserved

theorem readPair_encoded (name value : String) (plain : IsPlainName name) :
    readPair (name ++ "=" ++ encode value) = some (name, value) := by
  rw [readPair_render _ _ (not_mem_of_isPlainName plain (by decide)), decode_of_unreserved name plain,
    decode_encode]
  rfl

theorem mapM_eq_some_map {α β : Type} (f : α → Option β) (g : α → β) :
    ∀ items : List α, (∀ item ∈ items, f item = some (g item)) → items.mapM f = some (items.map g)
  | [], _ => rfl
  | item :: items, found => by
      rw [List.mapM_cons, found item List.mem_cons_self,
        mapM_eq_some_map f g items fun other member => found other (List.mem_cons_of_mem _ member)]
      rfl

theorem mapM_readPair_encoded (pairs : List (String × String)) (plain : ∀ pair ∈ pairs, IsPlainName pair.1) :
    (pairs.map encodeValue).mapM (fun pair => readPair (pair.1 ++ "=" ++ pair.2)) = some pairs := by
  rw [List.mapM_map]
  have fixed := mapM_eq_some_map (fun pair => readPair ((encodeValue pair).1 ++ "=" ++ (encodeValue pair).2)) id pairs
    fun pair member => readPair_encoded pair.1 pair.2 (plain pair member)
  rw [List.map_id] at fixed
  exact fixed

theorem clean_encodeValue {c : Char} (notEscape : c ≠ '%') (reserved : c ∉ unreservedChars)
    (pairs : List (String × String)) (plain : ∀ pair ∈ pairs, IsPlainName pair.1) :
    ∀ pair ∈ pairs.map encodeValue, c ∉ pair.1.toList ∧ c ∉ pair.2.toList := by
  intro pair member
  obtain ⟨original, listed, rfl⟩ := List.mem_map.mp member
  exact ⟨not_mem_of_isPlainName (plain original listed) reserved, not_mem_encode _ notEscape reserved⟩

theorem readQuery_render_encoded (pairs : List (String × String)) (nonempty : pairs ≠ [])
    (plain : ∀ pair ∈ pairs, IsPlainName pair.1) :
    readQuery (renderQuery (pairs.map encodeValue)) = some pairs := by
  rw [readQuery_render _ (by simpa using nonempty) (clean_encodeValue (by decide) (by decide) pairs plain),
    mapM_readPair_encoded pairs plain]

theorem readQuery_prefix_render (pre : String) (first : String × String) (pairs : List (String × String))
    (preClean : '&' ∉ pre.toList) (clean : ∀ pair ∈ first :: pairs, '&' ∉ pair.1.toList ∧ '&' ∉ pair.2.toList) :
    readQuery (pre ++ renderQuery (first :: pairs)) =
      (readPair (pre ++ first.1 ++ "=" ++ first.2)).bind fun pair =>
        (pairs.mapM fun pair => readPair (pair.1 ++ "=" ++ pair.2)).map (pair :: ·) := by
  have joined : pre ++ renderQuery (first :: pairs) = renderQuery ((pre ++ first.1, first.2) :: pairs) := by
    simp only [renderQuery, List.map_cons, String.append_assoc, String.intercalate_cons_append]
  have longer : ∀ pair ∈ (pre ++ first.1, first.2) :: pairs, '&' ∉ pair.1.toList ∧ '&' ∉ pair.2.toList := by
    intro pair member
    rcases List.mem_cons.mp member with rfl | later
    · obtain ⟨nameClean, valueClean⟩ := clean first List.mem_cons_self
      simp only [String.toList_append, List.mem_append, not_or]
      exact ⟨⟨preClean, nameClean⟩, valueClean⟩
    · exact clean pair (List.mem_cons_of_mem _ later)
  rw [joined, readQuery_render _ (List.cons_ne_nil _ _) longer, List.mapM_cons]
  simp only [String.append_assoc, Option.bind_eq_bind, Option.pure_def]
  congr 1
  funext pair
  cases pairs.mapM fun pair => readPair (pair.1 ++ ("=" ++ pair.2)) <;> rfl

theorem readQuery_prefix_encoded (pre : String) (first : String × String) (rest : List (String × String))
    (preClean : '&' ∉ pre.toList) (plain : ∀ pair ∈ first :: rest, IsPlainName pair.1) :
    readQuery (pre ++ renderQuery ((first :: rest).map encodeValue)) =
      (readPair (pre ++ first.1 ++ "=" ++ encode first.2)).map (· :: rest) := by
  have clean := clean_encodeValue (c := '&') (by decide) (by decide) (first :: rest) plain
  rw [List.map_cons] at clean
  rw [List.map_cons, readQuery_prefix_render _ _ _ preClean clean,
    mapM_readPair_encoded rest fun pair member => plain pair (List.mem_cons_of_mem _ member)]
  simp only [encodeValue]
  cases readPair (pre ++ first.1 ++ "=" ++ encode first.2) <;> rfl

theorem urlQuery_append (base query : String) (baseClean : '?' ∉ base.toList ∧ '#' ∉ base.toList)
    (queryClean : '#' ∉ query.toList) : urlQuery (base ++ "?" ++ query) = some query := by
  have whole : (base ++ "?" ++ query).toList.takeWhile (· != '#') = (base ++ "?" ++ query).toList := by
    rw [List.takeWhile_eq_self_iff]
    intro c member
    simp only [String.toList_append, List.mem_append] at member
    rcases member with (inBase | inMark) | inQuery
    · exact bne_iff_ne.mpr fun same => baseClean.2 (same ▸ inBase)
    · have mark : c = '?' := by simpa using inMark
      rw [mark]
      decide
    · exact bne_iff_ne.mpr fun same => queryClean (same ▸ inQuery)
  have marked : base ++ "?" ++ query = base ++ String.singleton '?' ++ query := rfl
  rw [urlQuery, whole, String.ofList_toList, marked, splitn_two_append _ _ baseClean.1]

/-! ## Writing a query pair by pair -/

def appendPair (text : String) (pair : String × String) : String := text ++ "&" ++ pair.1 ++ "=" ++ pair.2

theorem foldl_appendPair (start : String) (first : String × String) (pairs : List (String × String)) :
    pairs.foldl appendPair (start ++ first.1 ++ "=" ++ first.2) = start ++ renderQuery (first :: pairs) := by
  induction pairs generalizing start first with
  | nil =>
      rw [List.foldl_nil, renderQuery, List.map_singleton, String.intercalate_singleton]
      simp only [String.append_assoc]
  | cons next pairs ih =>
      rw [List.foldl_cons, appendPair, ih, renderQuery, renderQuery]
      simp only [List.map_cons, String.intercalate_cons_cons, String.append_assoc]
      rfl

theorem not_mem_renderQuery {c : Char} (pairs : List (String × String)) (notAmp : c ≠ '&') (notEq : c ≠ '=')
    (clean : ∀ pair ∈ pairs, c ∉ pair.1.toList ∧ c ∉ pair.2.toList) : c ∉ (renderQuery pairs).toList := by
  rw [renderQuery, String.toList_intercalate, String.toList_singleton]
  apply RustStr.not_mem_intercalate (by simpa using notAmp)
  intro piece member
  obtain ⟨text, textMember, rfl⟩ := List.mem_map.mp member
  obtain ⟨pair, listed, rfl⟩ := List.mem_map.mp textMember
  obtain ⟨nameClean, valueClean⟩ := clean pair listed
  simp only [String.toList_append, List.mem_append, not_or]
  exact ⟨⟨nameClean, by simpa using notEq⟩, valueClean⟩

end PercentEncoding
