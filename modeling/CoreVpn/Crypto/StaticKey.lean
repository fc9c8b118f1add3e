import CoreVpn.Lib.RustStr
import CoreVpn.Crypto.Cipher

/-!
# OpenVPN static key files

`format_static_key` and `parse_static_key` (`corevpn-crypto/src/cert.rs`): a 2048-bit
tls-auth key is written as three comment lines, a begin marker, sixteen lines of 32
lowercase hexadecimal digits and an end marker. The parser skips comment, marker and
blank lines and reads every other line two bytes at a time into the key, at an offset
carried from line to line.

Every key reads back from its file (`parseStaticKey_formatStaticKey`), and on ASCII text
the parser returns without panicking (`parseStaticKey_ne_panic_of_ascii`). It slices each
line at UTF-8 byte offsets, so a line whose second byte falls inside a character makes it
panic (`parse_static_key_panics_inside_character`).
-/

namespace CoreVpn.Crypto

open RustStr

set_option autoImplicit false

def formatStaticKey (key : Vector UInt8 256) : String :=
  let output := "#\n" ++ "# 2048 bit OpenVPN static key\n" ++ "#\n" ++
    "-----BEGIN OpenVPN Static key V1-----\n"
  let output := (chunks 16 key.toList).foldl (fun output chunk =>
      (chunk.foldl (fun output byte => output ++ lowerHexByte byte) output).push '\n') output
  output ++ "-----END OpenVPN Static key V1-----\n"

/-- The state of `parse_static_key`'s loops: the key so far and the offset of its next byte. -/
structure KeyState where
  key : Vector UInt8 256
  offset : Nat
  deriving DecidableEq

def readHexPairs (line : List Char) : List Nat → KeyState → Except (Failure CryptoError) KeyState
  | [], state => .ok state
  | i :: rest, state =>
      if full : 256 ≤ state.offset then .ok state
      else if utf8Len line < i + 2 then .ok state
      else
        match sliceBytes line i (i + 2) with
        | none => .error .panic
        | some pair =>
            match u8FromStrRadix pair 16 with
            | none => .error (.err (.invalidPem "Invalid hex in static key"))
            | some byte =>
                readHexPairs line rest ⟨state.key.set state.offset byte (by omega), state.offset + 1⟩

def readKeyLines : List String → KeyState → Except (Failure CryptoError) KeyState
  | [], state => .ok state
  | line :: rest, state =>
      let line := trim line
      if startsWith line '#' || startsWith line '-' || line.isEmpty then readKeyLines rest state
      else do
        let state ← readHexPairs line.toList (List.range' 0 ((utf8Len line.toList + 1) / 2) 2) state
        readKeyLines rest state

def parseStaticKey (pem : String) : Except (Failure CryptoError) (Vector UInt8 256) := do
  let state ← readKeyLines (lines pem) ⟨Vector.replicate 256 0, 0⟩
  if state.offset ≠ 256 then
    throw (.err (.invalidPem ("Static key wrong length: expected 256, got " ++ toString state.offset)))
  else pure state.key

/-! ## The lines of a key file -/

def hexChars (bytes : List UInt8) : List Char := bytes.flatMap fun byte => (lowerHexByte byte).toList

def keyFileLines (key : Vector UInt8 256) : List String :=
  ["#", "# 2048 bit OpenVPN static key", "#", "-----BEGIN OpenVPN Static key V1-----"] ++
    (chunks 16 key.toList).map (fun chunk => String.ofList (hexChars chunk)) ++
    ["-----END OpenVPN Static key V1-----"]

@[simp] theorem hexChars_nil : hexChars [] = [] := rfl

theorem hexChars_append (front back : List UInt8) :
    hexChars (front ++ back) = hexChars front ++ hexChars back := List.flatMap_append

theorem hexChars_cons (byte : UInt8) (bytes : List UInt8) :
    hexChars (byte :: bytes) =
      Nat.digitChar (byte.toNat / 16) :: Nat.digitChar (byte.toNat % 16) :: hexChars bytes := by
  simp [hexChars, lowerHexByte]

theorem length_hexChars (bytes : List UInt8) : (hexChars bytes).length = 2 * bytes.length := by
  induction bytes with
  | nil => rfl
  | cons byte bytes ih =>
      rw [hexChars_cons, List.length_cons, List.length_cons, ih, List.length_cons]
      omega

theorem exists_digitChar_of_mem_hexChars {bytes : List UInt8} {c : Char} (member : c ∈ hexChars bytes) :
    ∃ n < 16, c = Nat.digitChar n := by
  obtain ⟨byte, -, inside⟩ := List.mem_flatMap.mp member
  have high : byte.toNat / 16 < 16 := by have := byte.toNat_lt; omega
  simp only [lowerHexByte, String.toList_ofList, List.mem_cons, List.not_mem_nil, or_false] at inside
  rcases inside with rfl | rfl
  · exact ⟨_, high, rfl⟩
  · exact ⟨_, Nat.mod_lt _ (by decide), rfl⟩

theorem digitChar_plain : ∀ n < 16, (Nat.digitChar n).utf8Size = 1 ∧ isWhitespace (Nat.digitChar n) = false ∧
    Nat.digitChar n ≠ '#' ∧ Nat.digitChar n ≠ '-' ∧ Nat.digitChar n ≠ '\n' ∧ Nat.digitChar n ≠ '\r' := by
  decide

theorem toList_foldl_append {α : Type} (render : α → String) (items : List α) (output : String) :
    (items.foldl (fun output item => output ++ render item) output).toList =
      output.toList ++ items.flatMap fun item => (render item).toList := by
  induction items generalizing output with
  | nil => simp
  | cons item items ih => simp [ih, String.toList_append]

theorem toList_formatStaticKey (key : Vector UInt8 256) :
    (formatStaticKey key).toList = Framing.delimit '\n' ((keyFileLines key).map String.toList) := by
  have rows : ∀ (chunks : List (List UInt8)) (output : String),
      (chunks.foldl (fun output chunk =>
          (chunk.foldl (fun output byte => output ++ lowerHexByte byte) output).push '\n') output).toList =
        output.toList ++ Framing.delimit '\n' (chunks.map hexChars) := by
    intro chunks
    induction chunks with
    | nil => simp
    | cons chunk chunks ih =>
        intro output
        rw [List.foldl_cons, ih, String.toList_push, toList_foldl_append, List.map_cons,
          Framing.delimit_cons]
        simp [hexChars]
  rw [formatStaticKey, String.toList_append, rows, keyFileLines, List.map_append, List.map_append,
    Framing.delimit_append, Framing.delimit_append, List.map_map]
  have header : ("#\n" ++ "# 2048 bit OpenVPN static key\n" ++ "#\n" ++
      "-----BEGIN OpenVPN Static key V1-----\n").toList = Framing.delimit '\n'
        (["#", "# 2048 bit OpenVPN static key", "#", "-----BEGIN OpenVPN Static key V1-----"].map
          String.toList) := by decide
  have footer : "-----END OpenVPN Static key V1-----\n".toList =
      Framing.delimit '\n' (["-----END OpenVPN Static key V1-----"].map String.toList) := by decide
  rw [header, footer]
  simp [Function.comp_def, String.toList_ofList]

theorem lines_formatStaticKey (key : Vector UInt8 256) :
    lines (formatStaticKey key) = keyFileLines key := by
  have chars : formatStaticKey key = String.ofList (formatStaticKey key).toList := String.ofList_toList.symm
  rw [chars, toList_formatStaticKey]
  apply lines_delimit
  intro text member
  simp only [keyFileLines, List.mem_append, List.mem_cons, List.not_mem_nil, or_false, List.mem_map] at member
  rcases member with ((rfl | rfl | rfl | rfl) | ⟨chunk, -, rfl⟩) | rfl
  · decide
  · decide
  · decide
  · decide
  · -- a hexadecimal line holds digits only
    constructor
    · intro inside
      rw [String.toList_ofList] at inside
      obtain ⟨n, small, same⟩ := exists_digitChar_of_mem_hexChars inside
      exact (digitChar_plain n small).2.2.2.2.1 same.symm
    · intro last
      rw [String.toList_ofList] at last
      obtain ⟨n, small, same⟩ := exists_digitChar_of_mem_hexChars (List.mem_of_getLast? last)
      exact (digitChar_plain n small).2.2.2.2.2 same.symm
  · decide

/-! ## Reading a key file back -/

/-- The key so far holds `key`'s bytes below the offset. -/
def KeyState.Agrees (state : KeyState) (key : Vector UInt8 256) : Prop :=
  state.key.toList.take state.offset = key.toList.take state.offset

theorem KeyState.Agrees.write {state : KeyState} {key : Vector UInt8 256} (agrees : state.Agrees key)
    (inside : state.offset < 256) :
    KeyState.Agrees ⟨state.key.set state.offset key[state.offset] inside, state.offset + 1⟩ key := by
  have own : key.toList[state.offset]? = some key[state.offset] := by simp
  have room : state.offset < state.key.toList.length := by simpa using inside
  simp only [KeyState.Agrees, Vector.toList_set, List.take_add_one,
    List.take_set_of_le (Nat.le_refl _), List.getElem?_set_self room, own]
  rw [agrees]

theorem sliceBytes_hexChars (done rest : List UInt8) (byte : UInt8) :
    sliceBytes (hexChars (done ++ byte :: rest)) (2 * done.length) (2 * done.length + 2) =
      some (lowerHexByte byte).toList := by
  have ascii : ∀ c ∈ hexChars (done ++ byte :: rest), c.utf8Size = 1 := by
    intro c member
    obtain ⟨n, small, rfl⟩ := exists_digitChar_of_mem_hexChars member
    exact (digitChar_plain n small).1
  have within : 2 * done.length + 2 ≤ (hexChars (done ++ byte :: rest)).length := by
    simp only [length_hexChars, List.length_append, List.length_cons]
    omega
  rw [sliceBytes_of_ascii _ ascii (by omega) within, hexChars_append, hexChars_cons,
    List.drop_left' (length_hexChars done), Nat.add_sub_cancel_left]
  simp [lowerHexByte]

theorem readHexPairs_hexChars (key : Vector UInt8 256) (done rest : List UInt8) (state : KeyState)
    (agrees : state.Agrees key) (source : rest <+: key.toList.drop state.offset) :
    ∃ final, readHexPairs (hexChars (done ++ rest)) (List.range' (2 * done.length) rest.length 2) state =
        .ok final ∧ final.offset = state.offset + rest.length ∧ final.Agrees key := by
  induction rest generalizing done state with
  | nil => exact ⟨state, rfl, rfl, agrees⟩
  | cons byte rest ih =>
      have inside : state.offset < 256 := by
        have room := source.length_le
        simp only [List.length_cons, List.length_drop, Vector.length_toList] at room
        omega
      rw [List.drop_eq_getElem_cons (by simpa using inside), List.cons_prefix_cons] at source
      obtain ⟨own, later⟩ := source
      simp only [Vector.getElem_toList] at own
      subst own
      obtain ⟨final, read, offset, agreesFinal⟩ :=
        ih (done ++ [key[state.offset]]) _ (agrees.write inside) later
      rw [List.append_assoc, List.singleton_append, List.length_append, List.length_singleton,
        Nat.mul_add, Nat.mul_one] at read
      have long : ¬ utf8Len (hexChars (done ++ key[state.offset] :: rest)) < 2 * done.length + 2 := by
        rw [utf8Len_of_ascii _ fun c member => by
          obtain ⟨n, small, rfl⟩ := exists_digitChar_of_mem_hexChars member
          exact (digitChar_plain n small).1]
        simp only [length_hexChars, List.length_append, List.length_cons]
        omega
      dsimp only at offset
      refine ⟨final, ?_, by rw [offset, List.length_cons]; omega, agreesFinal⟩
      rw [List.length_cons, List.range'_succ, readHexPairs, dif_neg (by omega), if_neg long,
        sliceBytes_hexChars]
      simp only [u8FromStrRadix_lowerHexByte]
      exact read

theorem readKeyLines_skip (line : String)
    (skipped : (startsWith (trim line) '#' || startsWith (trim line) '-' || (trim line).isEmpty) = true)
    (rest : List String) (state : KeyState) : readKeyLines (line :: rest) state = readKeyLines rest state := by
  simp only [readKeyLines, skipped, if_true]

theorem readKeyLines_hexLine (chunk : List UInt8) (nonempty : chunk ≠ []) (rest : List String)
    (state : KeyState) :
    readKeyLines (String.ofList (hexChars chunk) :: rest) state =
      (do
        let state ← readHexPairs (hexChars chunk) (List.range' 0 chunk.length 2) state
        readKeyLines rest state) := by
  have plain : ∀ c ∈ hexChars chunk, c.utf8Size = 1 ∧ isWhitespace c = false ∧ c ≠ '#' ∧ c ≠ '-' := by
    intro c member
    obtain ⟨n, small, rfl⟩ := exists_digitChar_of_mem_hexChars member
    have digit := digitChar_plain n small
    exact ⟨digit.1, digit.2.1, digit.2.2.1, digit.2.2.2.1⟩
  obtain ⟨first, later, split⟩ : ∃ first later, hexChars chunk = first :: later := by
    obtain ⟨byte, bytes, rfl⟩ := List.exists_cons_of_ne_nil nonempty
    exact ⟨_, _, hexChars_cons byte bytes⟩
  have firstPlain := plain first (by rw [split]; exact List.mem_cons_self)
  have trimmed : trim (String.ofList (hexChars chunk)) = String.ofList (hexChars chunk) := by
    apply trim_eq_self <;> intro c member <;> rw [String.toList_ofList] at member
    · exact (plain c (List.mem_of_mem_head? member)).2.1
    · exact (plain c (List.mem_of_getLast? member)).2.1
  have kept : (startsWith (String.ofList (hexChars chunk)) '#' || startsWith (String.ofList (hexChars chunk)) '-' ||
      (String.ofList (hexChars chunk)).isEmpty) = false := by
    simp [startsWith, split, firstPlain.2.2.1, firstPlain.2.2.2]
  have offsets : (utf8Len (hexChars chunk) + 1) / 2 = chunk.length := by
    rw [utf8Len_of_ascii _ fun c member => (plain c member).1, length_hexChars]
    omega
  simp only [readKeyLines, trimmed, kept, Bool.false_eq_true, if_false, String.toList_ofList, offsets]

theorem readKeyLines_rows (key : Vector UInt8 256) (rows : List (List UInt8))
    (nonempty : ∀ row ∈ rows, row ≠ []) (rest : List String) (state : KeyState) (agrees : state.Agrees key)
    (source : rows.flatten <+: key.toList.drop state.offset) :
    ∃ final, final.offset = state.offset + rows.flatten.length ∧ final.Agrees key ∧
      readKeyLines (rows.map (fun row => String.ofList (hexChars row)) ++ rest) state = readKeyLines rest final := by
  induction rows generalizing state with
  | nil => exact ⟨state, rfl, agrees, rfl⟩
  | cons row rows ih =>
      rw [List.flatten_cons] at source
      obtain ⟨afterRow, readRow, offsetRow, agreesRow⟩ :=
        readHexPairs_hexChars key [] row state agrees ((List.prefix_append _ _).trans source)
      have later : rows.flatten <+: key.toList.drop afterRow.offset := by
        obtain ⟨tail, whole⟩ := source
        refine ⟨tail, ?_⟩
        rw [offsetRow, ← List.drop_drop, ← whole, List.append_assoc, List.drop_left]
      obtain ⟨final, offset, agreesFinal, read⟩ :=
        ih (fun other member => nonempty other (List.mem_cons_of_mem _ member)) afterRow agreesRow later
      refine ⟨final, by rw [offset, offsetRow, List.flatten_cons, List.length_append]; omega, agreesFinal, ?_⟩
      rw [List.map_cons, List.cons_append, readKeyLines_hexLine row (nonempty row List.mem_cons_self)]
      simp only [List.length_nil, Nat.mul_zero, List.nil_append] at readRow
      rw [readRow]
      exact read

theorem parseStaticKey_formatStaticKey (key : Vector UInt8 256) :
    parseStaticKey (formatStaticKey key) = .ok key := by
  have whole : (chunks 16 key.toList).flatten = key.toList := flatten_chunks 16 key.toList (by decide)
  obtain ⟨final, offset, agrees, read⟩ := readKeyLines_rows key (chunks 16 key.toList)
    (fun row member => (mem_chunks member).1) ["-----END OpenVPN Static key V1-----"]
    ⟨Vector.replicate 256 0, 0⟩ (by simp [KeyState.Agrees]) (by rw [whole]; exact List.prefix_refl _)
  rw [whole, Vector.length_toList, Nat.zero_add] at offset
  have same : final.key = key := by
    apply Vector.toList_inj.mp
    have all := agrees
    rwa [KeyState.Agrees, offset, List.take_of_length_le (by simp), List.take_of_length_le (by simp)] at all
  simp only [parseStaticKey, lines_formatStaticKey, keyFileLines, List.cons_append,
    List.nil_append, readKeyLines_skip "#" (by decide), readKeyLines_skip "# 2048 bit OpenVPN static key" (by decide),
    readKeyLines_skip "-----BEGIN OpenVPN Static key V1-----" (by decide), read,
    readKeyLines_skip "-----END OpenVPN Static key V1-----" (by decide)]
  simp [readKeyLines, offset, same]
  rfl

/-! ## Panics -/

theorem readHexPairs_ne_panic (line : List Char) (ascii : ∀ c ∈ line, c.utf8Size = 1) (offsets : List Nat)
    (state : KeyState) : readHexPairs line offsets state ≠ .error .panic := by
  induction offsets generalizing state with
  | nil => simp [readHexPairs]
  | cons i rest ih =>
      rw [readHexPairs]
      split
      · simp
      · split
        · simp
        · rename_i long
          rw [utf8Len_of_ascii _ ascii] at long
          rw [sliceBytes_of_ascii line ascii (by omega) (by omega)]
          dsimp only
          split
          · simp
          · exact ih _

theorem readKeyLines_ne_panic (textLines : List String)
    (ascii : ∀ line ∈ textLines, ∀ c ∈ line.toList, c.utf8Size = 1) (state : KeyState) :
    readKeyLines textLines state ≠ .error .panic := by
  induction textLines generalizing state with
  | nil => simp [readKeyLines]
  | cons line rest ih =>
      have later := ih fun other member => ascii other (List.mem_cons_of_mem _ member)
      have trimmed : ∀ c ∈ (trim line).toList, c.utf8Size = 1 :=
        fun c inside => ascii line List.mem_cons_self c (mem_of_mem_trim inside)
      simp only [readKeyLines]
      split
      · exact later state
      · cases read : readHexPairs (trim line).toList
            (List.range' 0 ((utf8Len (trim line).toList + 1) / 2) 2) state with
        | error failure =>
            have refused := readHexPairs_ne_panic _ trimmed
              (List.range' 0 ((utf8Len (trim line).toList + 1) / 2) 2) state
            rw [read] at refused
            exact refused
        | ok next => exact later next

theorem parseStaticKey_ne_panic_of_ascii (pem : String) (ascii : ∀ c ∈ pem.toList, c.utf8Size = 1) :
    parseStaticKey pem ≠ .error .panic := by
  have linesAscii : ∀ line ∈ lines pem, ∀ c ∈ line.toList, c.utf8Size = 1 :=
    fun line member c inside => ascii c (mem_of_mem_lines member inside)
  have refused := readKeyLines_ne_panic (lines pem) linesAscii ⟨Vector.replicate 256 0, 0⟩
  simp only [parseStaticKey]
  cases read : readKeyLines (lines pem) ⟨Vector.replicate 256 0, 0⟩ with
  | error failure =>
      rw [read] at refused
      have notPanic : failure ≠ .panic := fun same => refused (by rw [same])
      simpa only [bind, Except.bind, ne_eq, Except.error.injEq] using notPanic
  | ok final =>
      simp only [bind, Except.bind]
      split
      · intro short
        cases short
      · intro returned
        cases returned

/-- A line whose second byte is inside a two-byte character: slicing its first pair
panics. -/
theorem parse_static_key_panics_inside_character : parseStaticKey "0é" = .error .panic := by
  decide

end CoreVpn.Crypto
