import CoreVpn.Crypto.ReplayWindow
import CoreVpn.Lib.Wire

/-!
# Data-channel packet encryption

`PacketCipher` (`corevpn-crypto/src/cipher.rs`) numbers outgoing packets with a
64-bit counter, uses the counter as the AEAD nonce and as associated data, and
on the receiving side checks the counter against the replay window before it
authenticates the packet. The AEAD itself (the `chacha20poly1305` and `aes-gcm`
crates) is not part of the repository: it enters as an `Aead` parameter, two
functions that may fail on any input. Facts the code relies on about it are
stated where a theorem needs them, as hypotheses.

A failed decryption is not free: the window has already been updated when the
AEAD check fails (`decrypt_failure_window`).
-/

namespace CoreVpn.Crypto

set_option autoImplicit false

/-- `enum CryptoError`, the variants the modelled functions return. -/
inductive CryptoError
  | encryptionFailed (reason : String)
  | decryptionFailed
  | replayDetected
  | hmacVerificationFailed
  | keyDerivationFailed (reason : String)
  | invalidPem (message : String)
  deriving DecidableEq, Repr

inductive CipherSuite
  | chaCha20Poly1305
  | aes256Gcm
  deriving DecidableEq, Repr

namespace CipherSuite

def tagSize : Nat := 16

end CipherSuite

abbrev Key := List.Vector UInt8 32

abbrev Nonce := List.Vector UInt8 12

/-- The third-party AEAD as the code calls it: `encrypt suite key nonce plaintext aad`
and `decrypt suite key nonce ciphertext aad`, each of which may fail. -/
structure Aead where
  encrypt : CipherSuite → Key → Nonce → List UInt8 → List UInt8 → Option (List UInt8)
  decrypt : CipherSuite → Key → Nonce → List UInt8 → List UInt8 → Option (List UInt8)

structure DataChannelKey where
  key : Key
  cipherSuite : CipherSuite
  deriving DecidableEq

/-- `struct Cipher`: the keyed AEAD instance of one suite. -/
structure Cipher where
  key : Key
  suite : CipherSuite
  deriving DecidableEq

def DataChannelKey.cipher (key : DataChannelKey) : Cipher := ⟨key.key, key.cipherSuite⟩

namespace Cipher

variable (aead : Aead)

def encryptionFailure : CipherSuite → String
  | .chaCha20Poly1305 => "ChaCha20-Poly1305 encryption failed"
  | .aes256Gcm => "AES-256-GCM encryption failed"

def encrypt (cipher : Cipher) (nonce : Nonce) (plaintext aad : List UInt8) :
    Except CryptoError (List UInt8) :=
  match aead.encrypt cipher.suite cipher.key nonce plaintext aad with
  | some ciphertext => .ok ciphertext
  | none => .error (.encryptionFailed (encryptionFailure cipher.suite))

/-- `Cipher::encrypt_into`: the ciphertext appended to `out`, and the count written. -/
def encryptInto (cipher : Cipher) (nonce : Nonce) (plaintext aad out : List UInt8) :
    Except CryptoError (Nat × List UInt8) := do
  let ciphertext ← cipher.encrypt aead nonce plaintext aad
  let out := out ++ ciphertext
  pure (ciphertext.length, out)

def decrypt (cipher : Cipher) (nonce : Nonce) (ciphertext aad : List UInt8) :
    Except CryptoError (List UInt8) :=
  match aead.decrypt cipher.suite cipher.key nonce ciphertext aad with
  | some plaintext => .ok plaintext
  | none => .error .decryptionFailed

end Cipher

structure PacketCipher where
  cipher : Cipher
  txCounter : UInt64
  rxWindow : ReplayWindow
  deriving DecidableEq

namespace PacketCipher

/-- `PACKET_HEADER_SIZE`, the 8-byte counter in front of every packet. -/
def packetHeaderSize : Nat := 8

def new (key : DataChannelKey) : PacketCipher :=
  { cipher := key.cipher, txCounter := 0, rxWindow := ReplayWindow.new }

def u64ToBeBytes (value : UInt64) : List UInt8 := Wire.encode 8 value.toNat

def u64FromBeBytes (bytes : List UInt8) : UInt64 := UInt64.ofNat (Wire.decode bytes)

def nonceOf (packetId : List UInt8) : Nonce :=
  ⟨(List.replicate 4 0 ++ packetId).take 12 ++ List.replicate (12 - (4 + packetId.length)) 0,
    by simp; omega⟩

variable (aead : Aead)

/-- `PacketCipher::encrypt`: `[8-byte packet_id | ciphertext | tag]`. The counter is
advanced before the AEAD runs, so it stays advanced when encryption fails. -/
def encrypt (packetCipher : PacketCipher) (plaintext : List UInt8) :
    Except CryptoError (List UInt8) × PacketCipher :=
  if packetCipher.txCounter = UInt64.ofNat (2 ^ 64 - 1) then
    (.error (.encryptionFailed "packet counter overflow"), packetCipher)
  else
    let txCounter := packetCipher.txCounter + 1
    let packetCipher := { packetCipher with txCounter := txCounter }
    let packetId := u64ToBeBytes txCounter
    let nonce := nonceOf packetId
    let output := packetId
    match packetCipher.cipher.encryptInto aead nonce plaintext packetId output with
    | .ok (_, output) => (.ok output, packetCipher)
    | .error failure => (.error failure, packetCipher)

def counterOf (packet : List UInt8) : UInt64 := u64FromBeBytes (packet.take 8)

/-- `PacketCipher::decrypt`: the replay window is updated before the AEAD check. -/
def decrypt (packetCipher : PacketCipher) (packet : List UInt8) :
    Except CryptoError (List UInt8) × PacketCipher :=
  if packet.length < packetHeaderSize + CipherSuite.tagSize then
    (.error .decryptionFailed, packetCipher)
  else
    let packetId := packet.take 8
    let counter := u64FromBeBytes packetId
    let (fresh, rxWindow) := packetCipher.rxWindow.checkAndUpdate counter
    let packetCipher := { packetCipher with rxWindow := rxWindow }
    if !fresh then (.error .replayDetected, packetCipher)
    else
      let nonce := nonceOf packetId
      (packetCipher.cipher.decrypt aead nonce (packet.drop 8) packetId, packetCipher)

/-! ## What a failed decryption changes -/

theorem decrypt_eq (packetCipher : PacketCipher) (packet : List UInt8) :
    packetCipher.decrypt aead packet =
      if packet.length < 24 then (.error .decryptionFailed, packetCipher)
      else if (packetCipher.rxWindow.checkAndUpdate (counterOf packet)).1 then
        (packetCipher.cipher.decrypt aead (nonceOf (packet.take 8)) (packet.drop 8) (packet.take 8),
          { packetCipher with rxWindow := (packetCipher.rxWindow.checkAndUpdate (counterOf packet)).2 })
      else (.error .replayDetected,
        { packetCipher with rxWindow := (packetCipher.rxWindow.checkAndUpdate (counterOf packet)).2 }) := by
  unfold decrypt counterOf
  by_cases short : packet.length < 24
  · simp only [packetHeaderSize, CipherSuite.tagSize, short, if_true]
  · simp only [packetHeaderSize, CipherSuite.tagSize, show ¬ packet.length < 8 + 16 from short,
      if_false]
    cases (packetCipher.rxWindow.checkAndUpdate (u64FromBeBytes (List.take 8 packet))).1 <;> rfl

theorem decrypt_failure_window (packetCipher : PacketCipher) (packet : List UInt8)
    {failure : CryptoError} {after : PacketCipher}
    (failed : packetCipher.decrypt aead packet = (.error failure, after)) :
    after.cipher = packetCipher.cipher ∧ after.txCounter = packetCipher.txCounter ∧
      (packet.length < 24 ∨ (packetCipher.rxWindow.checkAndUpdate (counterOf packet)).1 = false →
        after.rxWindow = packetCipher.rxWindow) ∧
      (24 ≤ packet.length → (packetCipher.rxWindow.checkAndUpdate (counterOf packet)).1 = true →
        after.rxWindow = (packetCipher.rxWindow.checkAndUpdate (counterOf packet)).2 ∧
          aead.decrypt packetCipher.cipher.suite packetCipher.cipher.key (nonceOf (packet.take 8))
            (packet.drop 8) (packet.take 8) = none) := by
  rw [decrypt_eq] at failed
  by_cases short : packet.length < 24
  · simp only [short, if_true, Prod.mk.injEq] at failed
    obtain ⟨-, rfl⟩ := failed
    exact ⟨rfl, rfl, fun _ => rfl, fun long => absurd long (by omega)⟩
  · simp only [short, if_false] at failed
    cases accepted : (packetCipher.rxWindow.checkAndUpdate (counterOf packet)).1
    · simp only [accepted, Bool.false_eq_true, if_false, Prod.mk.injEq] at failed
      obtain ⟨-, rfl⟩ := failed
      have unchanged := ReplayWindow.checkAndUpdate_refused _ _ accepted
      exact ⟨rfl, rfl, fun _ => unchanged, fun _ refused => absurd refused (by simp)⟩
    · simp only [accepted, if_true, Prod.mk.injEq] at failed
      obtain ⟨rejected, rfl⟩ := failed
      refine ⟨rfl, rfl, fun refused => ?_, fun _ _ => ⟨rfl, ?_⟩⟩
      · rcases refused with tooShort | refused
        · exact absurd tooShort short
        · simp at refused
      · unfold Cipher.decrypt at rejected
        split at rejected
        · cases rejected
        · assumption

/-- The window does move on a failure: with an AEAD that refuses everything, a fresh
receiver fails on a forged packet whose counter is `1` and keeps that counter as seen. -/
theorem decrypt_failure_changes_window :
    let aead : Aead := ⟨fun _ _ _ _ _ => none, fun _ _ _ _ _ => none⟩
    let receiver := PacketCipher.new ⟨List.Vector.replicate 32 0, .chaCha20Poly1305⟩
    let forged : List UInt8 := [0, 0, 0, 0, 0, 0, 0, 1] ++ List.replicate 16 0
    (receiver.decrypt aead forged).1 = .error .decryptionFailed ∧
      (receiver.decrypt aead forged).2.rxWindow ≠ receiver.rxWindow := by
  decide

end PacketCipher

/-! ## Sealing and opening -/

/-- What the data channel relies on from the AEAD: sealing never fails, adds a
`tagSize`-byte tag, and opening under the same suite, key, nonce and associated
data gives the plaintext back. -/
structure Aead.Correct (aead : Aead) : Prop where
  seals : ∀ suite key nonce plaintext aad, ∃ ciphertext,
    aead.encrypt suite key nonce plaintext aad = some ciphertext
  tagged : ∀ suite key nonce plaintext aad ciphertext,
    aead.encrypt suite key nonce plaintext aad = some ciphertext →
      ciphertext.length = plaintext.length + CipherSuite.tagSize
  opens : ∀ suite key nonce plaintext aad ciphertext,
    aead.encrypt suite key nonce plaintext aad = some ciphertext →
      aead.decrypt suite key nonce ciphertext aad = some plaintext

namespace PacketCipher

variable (aead : Aead)

def nextNonce (packetCipher : PacketCipher) : Nonce :=
  nonceOf (u64ToBeBytes (packetCipher.txCounter + 1))

@[simp] theorem length_u64ToBeBytes (value : UInt64) : (u64ToBeBytes value).length = 8 := by
  simp [u64ToBeBytes]

theorem u64FromBeBytes_u64ToBeBytes (value : UInt64) : u64FromBeBytes (u64ToBeBytes value) = value := by
  have bound : value.toNat < 256 ^ 8 := by simpa using value.toNat_lt
  rw [u64FromBeBytes, u64ToBeBytes, Wire.decode_encode, Nat.mod_eq_of_lt bound]
  exact UInt64.ofNat_toNat

theorem nonceOf_toList {packetId : List UInt8} (eight : packetId.length = 8) :
    (nonceOf packetId).toList = List.replicate 4 0 ++ packetId := by
  simp [nonceOf, eight, List.take_of_length_le]

theorem nonceOf_u64ToBeBytes_injective {left right : UInt64}
    (same : nonceOf (u64ToBeBytes left) = nonceOf (u64ToBeBytes right)) : left = right := by
  have lists := congrArg List.Vector.toList same
  rw [nonceOf_toList (length_u64ToBeBytes left), nonceOf_toList (length_u64ToBeBytes right),
    List.append_cancel_left_eq] at lists
  rw [← u64FromBeBytes_u64ToBeBytes left, lists, u64FromBeBytes_u64ToBeBytes]

theorem encrypt_of_sealed (packetCipher : PacketCipher) (plaintext : List UInt8)
    {ciphertext : List UInt8} (room : packetCipher.txCounter ≠ UInt64.ofNat (2 ^ 64 - 1))
    (sealed : aead.encrypt packetCipher.cipher.suite packetCipher.cipher.key packetCipher.nextNonce
      plaintext (u64ToBeBytes (packetCipher.txCounter + 1)) = some ciphertext) :
    packetCipher.encrypt aead plaintext =
      (.ok (u64ToBeBytes (packetCipher.txCounter + 1) ++ ciphertext),
        { packetCipher with txCounter := packetCipher.txCounter + 1 }) := by
  simp only [encrypt, room, if_false, Cipher.encryptInto, Cipher.encrypt]
  simp only [nextNonce] at sealed
  simp only [sealed]
  rfl

theorem counterOf_sealed (counter : UInt64) (ciphertext : List UInt8) :
    counterOf (u64ToBeBytes counter ++ ciphertext) = counter := by
  rw [counterOf, List.take_left' (length_u64ToBeBytes counter), u64FromBeBytes_u64ToBeBytes]

theorem decrypt_sealed (packetCipher : PacketCipher) (counter : UInt64)
    {ciphertext plaintext : List UInt8} (tagged : CipherSuite.tagSize ≤ ciphertext.length)
    (opened : aead.decrypt packetCipher.cipher.suite packetCipher.cipher.key
      (nonceOf (u64ToBeBytes counter)) ciphertext (u64ToBeBytes counter) = some plaintext) :
    packetCipher.decrypt aead (u64ToBeBytes counter ++ ciphertext) =
      (if (packetCipher.rxWindow.checkAndUpdate counter).1 then .ok plaintext else .error .replayDetected,
        { packetCipher with rxWindow := (packetCipher.rxWindow.checkAndUpdate counter).2 }) := by
  have long : ¬ (u64ToBeBytes counter ++ ciphertext).length < 24 := by
    simp only [List.length_append, length_u64ToBeBytes, CipherSuite.tagSize] at tagged ⊢
    omega
  have front : (u64ToBeBytes counter ++ ciphertext).take 8 = u64ToBeBytes counter :=
    List.take_left' (length_u64ToBeBytes counter)
  have back : (u64ToBeBytes counter ++ ciphertext).drop 8 = ciphertext :=
    List.drop_left' (length_u64ToBeBytes counter)
  rw [decrypt_eq, if_neg long, counterOf_sealed, front, back]
  split
  · simp only [Cipher.decrypt, opened]
  · rfl

end PacketCipher

/-! ## Key material -/

/-- `struct KeyMaterial`, the keys derived from the TLS session. -/
structure KeyMaterial where
  clientWriteKey : Key
  serverWriteKey : Key
  clientHmacKey : Key
  serverHmacKey : Key

namespace KeyMaterial

def clientDataKey (material : KeyMaterial) (suite : CipherSuite) : DataChannelKey :=
  ⟨material.clientWriteKey, suite⟩

def serverDataKey (material : KeyMaterial) (suite : CipherSuite) : DataChannelKey :=
  ⟨material.serverWriteKey, suite⟩

end KeyMaterial

end CoreVpn.Crypto
