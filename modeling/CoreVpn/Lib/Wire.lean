import Mathlib.Data.Vector.Basic
import Mathlib.Tactic.Ring
import Mathlib.Tactic.Positivity
import Mathlib.Tactic.Linarith

/-!
# Big-endian words and bounds-checked reads

A binary wire format reads a fixed-width big-endian integer at an offset, after
checking that enough bytes remain, and its writer puts the same digits back.
This file states that pattern once, for any width and any error type:
`encode`/`decode` are the base-256 digit expansion and its inverse, and
`readAt` is the guarded slice a parser takes before it moves its offset on.

Readers are specified against the suffix `data.drop offset` still to be read,
so a round trip is proved by following that suffix from one field to the next.
-/

namespace Wire

set_option autoImplicit false

def encode : Nat → Nat → List UInt8
  | 0, _ => []
  | width + 1, value => UInt8.ofNat (value / 256 ^ width) :: encode width value

def decode : List UInt8 → Nat
  | [] => 0
  | byte :: rest => byte.toNat * 256 ^ rest.length + decode rest

@[simp] theorem encode_zero (value : Nat) : encode 0 value = [] := rfl

theorem encode_succ (width value : Nat) :
    encode (width + 1) value = UInt8.ofNat (value / 256 ^ width) :: encode width value := rfl

@[simp] theorem decode_nil : decode [] = 0 := rfl

theorem decode_cons (byte : UInt8) (rest : List UInt8) :
    decode (byte :: rest) = byte.toNat * 256 ^ rest.length + decode rest := rfl

@[simp] theorem length_encode (width value : Nat) : (encode width value).length = width := by
  induction width with
  | zero => rfl
  | succ width ih => simp [encode_succ, ih]

theorem decode_lt (bytes : List UInt8) : decode bytes < 256 ^ bytes.length := by
  induction bytes with
  | nil => simp
  | cons byte rest ih =>
      have digit : byte.toNat < 256 := byte.toNat_lt
      have scaled : (byte.toNat + 1) * 256 ^ rest.length ≤ 256 * 256 ^ rest.length :=
        Nat.mul_le_mul_right _ digit
      simp only [decode_cons, List.length_cons, pow_succ]
      nlinarith

theorem decode_encode (width value : Nat) : decode (encode width value) = value % 256 ^ width := by
  induction width with
  | zero => simp [Nat.mod_one]
  | succ width ih =>
      have digit : (UInt8.ofNat (value / 256 ^ width)).toNat = value / 256 ^ width % 256 := by
        simp
      simp only [encode_succ, decode_cons, length_encode, ih, digit]
      rw [Nat.mod_pow_succ]
      ring

theorem encode_add_mul (width high value : Nat) :
    encode width (high * 256 ^ width + value) = encode width value := by
  induction width generalizing high with
  | zero => rfl
  | succ width ih =>
      have shifted : high * 256 ^ (width + 1) + value = (high * 256) * 256 ^ width + value := by
        ring
      have quotient : (high * 256 ^ (width + 1) + value) / 256 ^ width =
          value / 256 ^ width + high * 256 := by
        rw [shifted, Nat.add_comm, Nat.add_mul_div_right _ _ (by positivity)]
      have digit : UInt8.ofNat ((high * 256 ^ (width + 1) + value) / 256 ^ width) =
          UInt8.ofNat (value / 256 ^ width) := by
        rw [quotient]
        apply UInt8.toNat.inj
        simp
      simp only [encode_succ, digit]
      rw [shifted, ih]

theorem encode_decode (bytes : List UInt8) : encode bytes.length (decode bytes) = bytes := by
  induction bytes with
  | nil => rfl
  | cons byte rest ih =>
      have below := decode_lt rest
      have leading : decode (byte :: rest) / 256 ^ rest.length = byte.toNat := by
        rw [decode_cons, Nat.add_comm, Nat.add_mul_div_right _ _ (by positivity), Nat.div_eq_of_lt below,
          Nat.zero_add]
      simp only [List.length_cons, encode_succ, leading, UInt8.ofNat_toNat]
      rw [decode_cons, encode_add_mul, ih]

theorem encode_injective_of_lt (width : Nat) {left right : Nat}
    (leftBound : left < 256 ^ width) (rightBound : right < 256 ^ width)
    (same : encode width left = encode width right) : left = right := by
  have decoded := congrArg decode same
  rwa [decode_encode, decode_encode, Nat.mod_eq_of_lt leftBound,
    Nat.mod_eq_of_lt rightBound] at decoded

/-! ## A byte split into a five-bit and a three-bit field -/

theorem toNat_shiftRight_three (byte : UInt8) : (byte >>> 3).toNat = byte.toNat / 8 := by
  rw [UInt8.toNat_shiftRight]
  simp [Nat.shiftRight_eq_div_pow]

theorem toNat_and_seven (byte : UInt8) : (byte &&& 7).toNat = byte.toNat % 8 := by
  rw [UInt8.toNat_and]
  exact Nat.and_two_pow_sub_one_eq_mod _ 3

theorem toNat_pack {high low : UInt8} (bound : high.toNat < 32) :
    ((high <<< 3) ||| (low &&& 7)).toNat = high.toNat * 8 + low.toNat % 8 := by
  have shifted : (high <<< 3).toNat = high.toNat <<< 3 := by
    rw [UInt8.toNat_shiftLeft, Nat.shiftLeft_eq]
    simp only [UInt8.reduceToNat, Nat.reduceMod, Nat.shiftLeft_eq]
    omega
  have lowBound : low.toNat % 8 < 2 ^ 3 := Nat.mod_lt _ (by decide)
  rw [UInt8.toNat_or, shifted, toNat_and_seven, ← Nat.shiftLeft_add_eq_or_of_lt lowBound,
    Nat.shiftLeft_eq]

theorem pack_split (byte : UInt8) : ((byte >>> 3) <<< 3) ||| (byte &&& 7) = byte := by
  have bound := byte.toNat_lt
  apply UInt8.toNat.inj
  rw [toNat_pack (by rw [toNat_shiftRight_three]; omega), toNat_shiftRight_three]
  omega

theorem toInt_toInt64 (word : UInt64) :
    word.toInt64.toInt = if word.toNat < 2 ^ 63 then (word.toNat : Int) else word.toNat - 2 ^ 64 := by
  simp only [Int64.toInt, UInt64.toBitVec_toInt64, BitVec.toInt]
  split <;> split <;> simp_all <;> omega

/-! ## Guarded reads -/

section Reads

variable {α ε : Type}

/-- `count` elements of `data` from `offset` on, after the length check a parser
makes first; `short needed available` builds the error when too few remain. -/
def readAt (short : Nat → Nat → ε) (data : List α) (offset count : Nat) :
    Except ε (List.Vector α count) :=
  if tooShort : data.length < offset + count then .error (short (offset + count) data.length)
  else .ok ⟨(data.drop offset).take count, by simp only [List.length_take, List.length_drop]; omega⟩

theorem readAt_of_lt (short : Nat → Nat → ε) {data : List α} {offset count : Nat}
    (tooShort : data.length < offset + count) :
    readAt short data offset count = .error (short (offset + count) data.length) := by
  simp [readAt, tooShort]

theorem readAt_eq_ok {short : Nat → Nat → ε} {data : List α} {offset count : Nat}
    {bytes : List.Vector α count} (read : readAt short data offset count = .ok bytes) :
    offset + count ≤ data.length ∧ data.drop offset = bytes.toList ++ data.drop (offset + count) := by
  unfold readAt at read
  split at read
  · cases read
  · rename_i enough
    cases read
    refine ⟨by omega, ?_⟩
    simp only [List.Vector.toList_mk]
    rw [← List.drop_drop, List.take_append_drop]

theorem readAt_of_drop_eq (short : Nat → Nat → ε) {data : List α} {offset count : Nat}
    (positive : 0 < count) (bytes : List.Vector α count) {rest : List α}
    (suffix : data.drop offset = bytes.toList ++ rest) :
    readAt short data offset count = .ok bytes := by
  have total : data.length = offset + count + rest.length := by
    have lengths := congrArg List.length suffix
    simp only [List.length_drop, List.length_append, List.Vector.toList_length] at lengths
    have offsetInside : offset ≤ data.length := by
      by_contra outside
      have empty : data.drop offset = [] := List.drop_eq_nil_of_le (by omega)
      rw [empty] at suffix
      have emptyBytes := congrArg List.length (List.append_eq_nil_iff.mp suffix.symm).1
      simp only [List.Vector.toList_length, List.length_nil] at emptyBytes
      omega
    omega
  have enough : ¬ data.length < offset + count := by omega
  simp only [readAt, enough, dite_false]
  congr 1
  apply List.Vector.toList_injective
  simp only [List.Vector.toList_mk, suffix]
  exact List.take_left' bytes.toList_length

theorem drop_after_read {data : List α} {offset count : Nat} {bytes : List α} {rest : List α}
    (length : bytes.length = count) (suffix : data.drop offset = bytes ++ rest) :
    data.drop (offset + count) = rest := by
  rw [← List.drop_drop, suffix, ← length, List.drop_left]

end Reads

/-! ## Binding in `Except` -/

section Bind

variable {ε α β : Type}

theorem bind_eq_ok {x : Except ε α} {f : α → Except ε β} {value : β} :
    x >>= f = .ok value ↔ ∃ a, x = .ok a ∧ f a = .ok value := by
  cases x with
  | error e => simp [bind, Except.bind]
  | ok a => simp [bind, Except.bind]

@[simp] theorem ok_bind (a : α) (f : α → Except ε β) : (Except.ok a >>= f) = f a := rfl

@[simp] theorem error_bind (e : ε) (f : α → Except ε β) : (Except.error e >>= f) = .error e := rfl

@[simp] theorem throw_eq_error (e : ε) : (throw e : Except ε α) = .error e := rfl

end Bind

end Wire
