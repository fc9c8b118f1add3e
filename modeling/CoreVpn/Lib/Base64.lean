import Mathlib.Data.List.Basic
import Mathlib.Data.List.Nodup

/-!
# Base64 (RFC 4648 §4 and §5)

Three bytes become four symbols of a 64-symbol alphabet. A last group of one or two
bytes becomes two or three symbols, and an encoding that pads fills it to four with `=`.

A strict decoder accepts exactly the texts the encoder produces. That is how the
general-purpose engines of the `base64` crate decode when the padding mode matches how
they encode (`RequireCanonical` with padding, `RequireNone` without) and trailing bits
are refused. `Engine.decode` reads the symbols back and then checks that the text is the
encoding of what it read. Which `DecodeError` a refused text gets is not modelled.

The symbols of a group are computed from the bytes as numbers, so the round trip
(`decodeChars_encodeChars`) is arithmetic on each group, and
`Engine.decode_eq_some_iff` says a text decodes to the bytes it is the encoding of.
-/

namespace Base64

set_option autoImplicit false

/-- Sixty-four distinct symbols, none of them the padding character. -/
structure Alphabet where
  symbols : List Char
  length_symbols : symbols.length = 64
  nodup : symbols.Nodup
  pad_not_mem : '=' ∉ symbols

namespace Alphabet

variable (alphabet : Alphabet)

def symbol (value : Nat) : Char := (alphabet.symbols[value]?).getD '='

def value? (c : Char) : Option Nat :=
  if alphabet.symbols.idxOf c < 64 then some (alphabet.symbols.idxOf c) else none

theorem symbol_eq_get {value : Nat} (small : value < 64) :
    alphabet.symbol value = alphabet.symbols.get ⟨value, alphabet.length_symbols ▸ small⟩ := by
  rw [symbol, List.getElem?_eq_getElem (alphabet.length_symbols ▸ small), Option.getD_some, List.get_eq_getElem]

theorem symbol_mem {value : Nat} (small : value < 64) : alphabet.symbol value ∈ alphabet.symbols := by
  rw [symbol_eq_get alphabet small]
  exact List.get_mem _ _

theorem symbol_ne_pad {value : Nat} (small : value < 64) : alphabet.symbol value ≠ '=' := fun same =>
  alphabet.pad_not_mem (same ▸ alphabet.symbol_mem small)

@[simp] theorem value?_symbol {value : Nat} (small : value < 64) : alphabet.value? (alphabet.symbol value) = some value := by
  have found : alphabet.symbols.idxOf (alphabet.symbol value) = value := by
    rw [symbol_eq_get alphabet small, List.get_eq_getElem]
    exact alphabet.nodup.idxOf_getElem _ _
  rw [value?, found, if_pos small]

theorem symbol_of_value? {c : Char} {value : Nat} (found : alphabet.value? c = some value) :
    value < 64 ∧ alphabet.symbol value = c := by
  unfold value? at found
  split at found
  · rename_i inside
    cases found
    refine ⟨inside, ?_⟩
    rw [symbol_eq_get alphabet inside, List.get_eq_getElem]
    exact List.getElem_idxOf _
  · cases found

end Alphabet

/-! ## Encoding and reading back -/

section Codec

variable (alphabet : Alphabet)

def encodeChars (padding : Bool) : List UInt8 → List Char
  | b0 :: b1 :: b2 :: rest =>
      [alphabet.symbol (b0.toNat / 4), alphabet.symbol (b0.toNat % 4 * 16 + b1.toNat / 16),
        alphabet.symbol (b1.toNat % 16 * 4 + b2.toNat / 64), alphabet.symbol (b2.toNat % 64)] ++
        encodeChars padding rest
  | [b0, b1] =>
      [alphabet.symbol (b0.toNat / 4), alphabet.symbol (b0.toNat % 4 * 16 + b1.toNat / 16),
        alphabet.symbol (b1.toNat % 16 * 4)] ++ if padding then ['='] else []
  | [b0] =>
      [alphabet.symbol (b0.toNat / 4), alphabet.symbol (b0.toNat % 4 * 16)] ++
        if padding then ['=', '='] else []
  | [] => []

def decodeChars : List Char → Option (List UInt8)
  | c0 :: c1 :: c2 :: c3 :: rest => do
      let v0 ← alphabet.value? c0
      let v1 ← alphabet.value? c1
      let v2 ← alphabet.value? c2
      let v3 ← alphabet.value? c3
      let tail ← decodeChars rest
      pure (UInt8.ofNat (v0 * 4 + v1 / 16) :: UInt8.ofNat (v1 % 16 * 16 + v2 / 4) ::
        UInt8.ofNat (v2 % 4 * 64 + v3) :: tail)
  | [c0, c1, c2] => do
      let v0 ← alphabet.value? c0
      let v1 ← alphabet.value? c1
      let v2 ← alphabet.value? c2
      pure [UInt8.ofNat (v0 * 4 + v1 / 16), UInt8.ofNat (v1 % 16 * 16 + v2 / 4)]
  | [c0, c1] => do
      let v0 ← alphabet.value? c0
      let v1 ← alphabet.value? c1
      pure [UInt8.ofNat (v0 * 4 + v1 / 16)]
  | [_] => none
  | [] => some []

theorem group_values_lt (b0 b1 b2 : UInt8) :
    b0.toNat / 4 < 64 ∧ b0.toNat % 4 * 16 + b1.toNat / 16 < 64 ∧ b1.toNat % 16 * 4 + b2.toNat / 64 < 64 ∧
      b2.toNat % 64 < 64 := by
  have := b0.toNat_lt
  have := b1.toNat_lt
  have := b2.toNat_lt
  omega

theorem ofNat_eq_of_toNat {byte : UInt8} {value : Nat} (same : value = byte.toNat) : UInt8.ofNat value = byte := by
  rw [same]
  exact UInt8.ofNat_toNat

theorem group_bytes (b0 b1 b2 : UInt8) :
    UInt8.ofNat (b0.toNat / 4 * 4 + (b0.toNat % 4 * 16 + b1.toNat / 16) / 16) = b0 ∧
      UInt8.ofNat ((b0.toNat % 4 * 16 + b1.toNat / 16) % 16 * 16 + (b1.toNat % 16 * 4 + b2.toNat / 64) / 4) = b1 ∧
      UInt8.ofNat ((b1.toNat % 16 * 4 + b2.toNat / 64) % 4 * 64 + b2.toNat % 64) = b2 := by
  have := b0.toNat_lt
  have := b1.toNat_lt
  have := b2.toNat_lt
  exact ⟨ofNat_eq_of_toNat (by omega), ofNat_eq_of_toNat (by omega), ofNat_eq_of_toNat (by omega)⟩

theorem decodeChars_encodeChars (bytes : List UInt8) :
    decodeChars alphabet (encodeChars alphabet false bytes) = some bytes := by
  induction bytes using encodeChars.induct with
  | case1 b0 b1 b2 rest ih =>
      obtain ⟨small0, small1, small2, small3⟩ := group_values_lt b0 b1 b2
      obtain ⟨byte0, byte1, byte2⟩ := group_bytes b0 b1 b2
      simp only [encodeChars, List.cons_append, List.nil_append, decodeChars,
        alphabet.value?_symbol small0, alphabet.value?_symbol small1, alphabet.value?_symbol small2,
        alphabet.value?_symbol small3, ih, Option.bind_eq_bind, Option.bind_some, Option.pure_def, byte0, byte1, byte2]
  | case2 b0 b1 =>
      obtain ⟨small0, small1, small2, -⟩ := group_values_lt b0 b1 0
      obtain ⟨byte0, byte1, -⟩ := group_bytes b0 b1 0
      simp only [UInt8.toNat_zero, Nat.zero_div, Nat.add_zero] at small2 byte1
      simp only [encodeChars, if_false, Bool.false_eq_true, List.append_nil, decodeChars,
        alphabet.value?_symbol small0, alphabet.value?_symbol small1, alphabet.value?_symbol small2,
        Option.bind_eq_bind, Option.bind_some, Option.pure_def, byte0, byte1]
  | case3 b0 =>
      obtain ⟨small0, small1, -, -⟩ := group_values_lt b0 0 0
      obtain ⟨byte0, -, -⟩ := group_bytes b0 0 0
      simp only [UInt8.toNat_zero, Nat.zero_div, Nat.add_zero] at small1 byte0
      simp only [encodeChars, if_false, Bool.false_eq_true, List.append_nil, decodeChars,
        alphabet.value?_symbol small0, alphabet.value?_symbol small1, Option.bind_eq_bind,
        Option.bind_some, Option.pure_def, byte0]
  | case4 => rfl

theorem filter_encodeChars (padding : Bool) (bytes : List UInt8) :
    (encodeChars alphabet padding bytes).filter (· != '=') = encodeChars alphabet false bytes := by
  have kept : ∀ value < 64, (alphabet.symbol value != '=') = true := fun value small =>
    bne_iff_ne.mpr (alphabet.symbol_ne_pad small)
  induction bytes using encodeChars.induct with
  | case1 b0 b1 b2 rest ih =>
      obtain ⟨small0, small1, small2, small3⟩ := group_values_lt b0 b1 b2
      simp only [encodeChars, List.filter_append, ih, List.filter_cons, kept _ small0, kept _ small1,
        kept _ small2, kept _ small3, if_true, List.filter_nil]
  | case2 b0 b1 =>
      obtain ⟨small0, small1, small2, -⟩ := group_values_lt b0 b1 0
      simp only [UInt8.toNat_zero, Nat.zero_div, Nat.add_zero] at small2
      cases padding <;>
        simp [encodeChars, kept _ small0, kept _ small1, kept _ small2]
  | case3 b0 =>
      obtain ⟨small0, small1, -, -⟩ := group_values_lt b0 0 0
      simp only [UInt8.toNat_zero, Nat.zero_div, Nat.add_zero] at small1
      cases padding <;> simp [encodeChars, kept _ small0, kept _ small1]
  | case4 => rfl

theorem length_encodeChars (padding : Bool) (bytes : List UInt8) :
    (encodeChars alphabet padding bytes).length =
      if padding then 4 * ((bytes.length + 2) / 3) else (4 * bytes.length + 2) / 3 := by
  induction bytes using encodeChars.induct with
  | case1 b0 b1 b2 rest ih =>
      rw [encodeChars, List.length_append, ih]
      cases padding <;> simp <;> omega
  | case2 b0 b1 => cases padding <;> simp [encodeChars]
  | case3 b0 => cases padding <;> simp [encodeChars]
  | case4 => cases padding <;> rfl

theorem mem_encodeChars {bytes : List UInt8} {c : Char} (member : c ∈ encodeChars alphabet false bytes) :
    c ∈ alphabet.symbols := by
  induction bytes using encodeChars.induct with
  | case1 b0 b1 b2 rest ih =>
      obtain ⟨small0, small1, small2, small3⟩ := group_values_lt b0 b1 b2
      simp only [encodeChars, List.cons_append, List.nil_append, List.mem_cons] at member
      rcases member with rfl | rfl | rfl | rfl | later
      · exact alphabet.symbol_mem small0
      · exact alphabet.symbol_mem small1
      · exact alphabet.symbol_mem small2
      · exact alphabet.symbol_mem small3
      · exact ih later
  | case2 b0 b1 =>
      obtain ⟨small0, small1, small2, -⟩ := group_values_lt b0 b1 0
      simp only [UInt8.toNat_zero, Nat.zero_div, Nat.add_zero] at small2
      simp only [encodeChars, Bool.false_eq_true, if_false, List.append_nil, List.mem_cons,
        List.not_mem_nil, or_false] at member
      rcases member with rfl | rfl | rfl
      · exact alphabet.symbol_mem small0
      · exact alphabet.symbol_mem small1
      · exact alphabet.symbol_mem small2
  | case3 b0 =>
      obtain ⟨small0, small1, -, -⟩ := group_values_lt b0 0 0
      simp only [UInt8.toNat_zero, Nat.zero_div, Nat.add_zero] at small1
      simp only [encodeChars, Bool.false_eq_true, if_false, List.append_nil, List.mem_cons,
        List.not_mem_nil, or_false] at member
      rcases member with rfl | rfl
      · exact alphabet.symbol_mem small0
      · exact alphabet.symbol_mem small1
  | case4 => cases member

end Codec

/-! ## Engines -/

/-- A general-purpose engine: its alphabet and whether it pads. -/
structure Engine where
  alphabet : Alphabet
  padding : Bool

namespace Engine

variable (engine : Engine)

def encode (bytes : List UInt8) : String := String.ofList (encodeChars engine.alphabet engine.padding bytes)

/-- `Engine::decode`, strict: the text must be the encoding of the bytes it reads back. -/
def decode (text : String) : Option (List UInt8) :=
  match decodeChars engine.alphabet (text.toList.filter (· != '=')) with
  | some bytes => if engine.encode bytes = text then some bytes else none
  | none => none

theorem decode_encode (bytes : List UInt8) : engine.decode (engine.encode bytes) = some bytes := by
  have readBack : decodeChars engine.alphabet ((engine.encode bytes).toList.filter (· != '=')) = some bytes := by
    rw [encode, String.toList_ofList, filter_encodeChars, decodeChars_encodeChars]
  rw [decode, readBack]
  exact if_pos rfl

theorem encode_injective : Function.Injective engine.encode := fun first second same => by
  have readBack := engine.decode_encode first
  rw [same, decode_encode] at readBack
  exact (Option.some.inj readBack).symm

theorem decode_eq_some_iff (text : String) (bytes : List UInt8) :
    engine.decode text = some bytes ↔ engine.encode bytes = text := by
  constructor
  · intro decoded
    unfold decode at decoded
    split at decoded
    · split at decoded
      · rename_i canonical
        cases decoded
        exact canonical
      · cases decoded
    · cases decoded
  · rintro rfl
    exact engine.decode_encode bytes

theorem mem_encode {bytes : List UInt8} {c : Char} (member : c ∈ (engine.encode bytes).toList) :
    c ∈ engine.alphabet.symbols ∨ c = '=' := by
  by_cases pad : c = '='
  · exact .inr pad
  · have kept : c ∈ (encodeChars engine.alphabet engine.padding bytes).filter (· != '=') := by
      rw [encode, String.toList_ofList] at member
      exact List.mem_filter.mpr ⟨member, bne_iff_ne.mpr pad⟩
    rw [filter_encodeChars] at kept
    exact .inl (mem_encodeChars engine.alphabet kept)

theorem length_encode (bytes : List UInt8) :
    (engine.encode bytes).length =
      if engine.padding then 4 * ((bytes.length + 2) / 3) else (4 * bytes.length + 2) / 3 := by
  rw [encode, String.length_ofList, length_encodeChars]

end Engine

/-! ## The RFC 4648 alphabets and the crate's engines -/

def standardAlphabet : Alphabet :=
  ⟨"ABCDEFGHIJKLMNOPQRSTUVWXYZabcdefghijklmnopqrstuvwxyz0123456789+/".toList, by decide, by decide, by decide⟩

def urlSafeAlphabet : Alphabet :=
  ⟨"ABCDEFGHIJKLMNOPQRSTUVWXYZabcdefghijklmnopqrstuvwxyz0123456789-_".toList, by decide, by decide, by decide⟩

/-- `general_purpose::STANDARD`: padded, and decoding requires canonical padding. -/
def standard : Engine := ⟨standardAlphabet, true⟩

/-- `general_purpose::URL_SAFE_NO_PAD`: unpadded, and decoding refuses padding. -/
def urlSafeNoPad : Engine := ⟨urlSafeAlphabet, false⟩

end Base64
