import CoreVpn.Crypto.Cipher
import CoreVpn.Lib.Expand

/-!
# Key derivation

`corevpn-crypto/src/kdf.rs`. HMAC-SHA256 and HKDF-SHA256 are third-party code (the
`hmac` and `hkdf` crates) and enter as parameters: `hmac key message` is the 32-byte
tag of a message under a key of any length (`Hmac::new_from_slice` accepts every
length, so the `?` after it never fails), and `okm salt ikm info length` is the output
keying material of HKDF, which `Hkdf::expand` refuses past 255 blocks.

`openvpn_prf` adds one block of P_SHA256 a turn while its output is shorter than
asked, and truncates. After exactly `⌈n / 32⌉` turns it holds that many blocks
(`prfLoop_blocks`), and it returns the first `n` bytes of the P_SHA256 stream, so the
output for a shorter length is a prefix of the output for a longer one.
-/

namespace CoreVpn.Crypto

set_option autoImplicit false

section Prf

variable (hmac : List UInt8 → List UInt8 → List.Vector UInt8 32)

def prfLoop (secret combinedSeed : List UInt8) (outputLen : Nat) (a output : List UInt8) : List UInt8 :=
  if _short : output.length < outputLen then
    -- A(i) = HMAC(secret, A(i-1)), then the block HMAC(secret, A(i) ++ seed)
    let a := (hmac secret a).toList
    prfLoop secret combinedSeed outputLen a (output ++ (hmac secret (a ++ combinedSeed)).toList)
  else output
termination_by outputLen - output.length
decreasing_by
  simp only [List.length_append, List.Vector.toList_length]
  omega

def openvpnPrf (secret label seed : List UInt8) (outputLen : Nat) : Except CryptoError (List UInt8) :=
  let combinedSeed := label ++ seed
  let output := prfLoop hmac secret combinedSeed outputLen combinedSeed []
  .ok (output.take outputLen)

theorem prfLoop_step (secret combinedSeed : List UInt8) (outputLen : Nat) (a output : List UInt8)
    (short : output.length < outputLen) :
    prfLoop hmac secret combinedSeed outputLen a output =
      prfLoop hmac secret combinedSeed outputLen (hmac secret a).toList
        (output ++ (hmac secret ((hmac secret a).toList ++ combinedSeed)).toList) := by
  rw [prfLoop, dif_pos short]

theorem prfLoop_done (secret combinedSeed : List UInt8) (outputLen : Nat) (a output : List UInt8)
    (filled : outputLen ≤ output.length) :
    prfLoop hmac secret combinedSeed outputLen a output = output := by
  rw [prfLoop, dif_neg (Nat.not_lt.mpr filled)]

/-! ## P_SHA256 -/

/-- `A(i)` of P_SHA256: `A(0)` is the seed and `A(i + 1) = HMAC(secret, A(i))`. -/
def chainValue (secret seed : List UInt8) : Nat → List UInt8
  | 0 => seed
  | i + 1 => (hmac secret (chainValue secret seed i)).toList

def pSha256Block (secret seed : List UInt8) (i : Nat) : List.Vector UInt8 32 :=
  hmac secret (chainValue hmac secret seed (i + 1) ++ seed)

def pSha256 (secret seed : List UInt8) (n : Nat) : List UInt8 :=
  Expand.streamPrefix (pSha256Block hmac secret seed) (by decide) n

theorem prfLoop_blocks (secret seed : List UInt8) (n count : Nat) :
    prfLoop hmac secret seed n (chainValue hmac secret seed count)
        (Expand.blocks (pSha256Block hmac secret seed) count) =
      Expand.blocks (pSha256Block hmac secret seed) (max count ((n + 31) / 32)) := by
  by_cases short : count * 32 < n
  · have turn := prfLoop_step hmac secret seed n (chainValue hmac secret seed count)
      (Expand.blocks (pSha256Block hmac secret seed) count) (by rw [Expand.length_blocks]; exact short)
    have next : (hmac secret (chainValue hmac secret seed count)).toList =
        chainValue hmac secret seed (count + 1) := rfl
    have block : hmac secret (chainValue hmac secret seed (count + 1) ++ seed) =
        pSha256Block hmac secret seed count := rfl
    rw [turn, next, block, ← Expand.blocks_succ, prfLoop_blocks secret seed n (count + 1)]
    congr 1
    omega
  · rw [prfLoop_done hmac secret seed n _ _ (by rw [Expand.length_blocks]; omega)]
    congr 1
    omega
termination_by n - count * 32

theorem openvpnPrf_eq (secret label seed : List UInt8) (n : Nat) :
    openvpnPrf hmac secret label seed n = .ok (pSha256 hmac secret (label ++ seed) n) := by
  have start := prfLoop_blocks hmac secret (label ++ seed) n 0
  rw [Nat.zero_max] at start
  show Except.ok ((prfLoop hmac secret (label ++ seed) n (chainValue hmac secret (label ++ seed) 0)
    (Expand.blocks (pSha256Block hmac secret (label ++ seed)) 0)).take n) = _
  rw [start, Expand.take_blocks _ (by decide) _ _ (by omega)]
  rfl

/-- `openvpn_prf` computes P_SHA256 for every length: it succeeds with the first `n`
bytes of the stream, and its output for a length is a prefix of its output for any
greater length. -/
theorem openvpn_prf_is_truncated_p_sha256 (secret label seed : List UInt8) (n : Nat) :
    openvpnPrf hmac secret label seed n = .ok (pSha256 hmac secret (label ++ seed) n) ∧
      ∀ m, n ≤ m → ∃ short long, openvpnPrf hmac secret label seed n = .ok short ∧
        openvpnPrf hmac secret label seed m = .ok long ∧ short <+: long := by
  refine ⟨openvpnPrf_eq hmac secret label seed n, fun m le => ?_⟩
  refine ⟨_, _, openvpnPrf_eq hmac secret label seed n, openvpnPrf_eq hmac secret label seed m, ?_⟩
  exact Expand.streamPrefix_isPrefix_of_le _ _ le

/-- With a zero tag for every message, 16 bytes of output are a prefix of 64. -/
theorem openvpn_prf_sixteen_prefix_of_sixty_four :
    ∃ short long,
      openvpnPrf (fun _ _ => List.Vector.replicate 32 0) [1] [2] [3] 16 = .ok short ∧
        openvpnPrf (fun _ _ => List.Vector.replicate 32 0) [1] [2] [3] 64 = .ok long ∧ short <+: long :=
  (openvpn_prf_is_truncated_p_sha256 (fun _ _ => List.Vector.replicate 32 0) [1] [2] [3] 16).2 64 (by decide)

end Prf

/-! ## HKDF -/

section Hkdf

variable (okm : (salt ikm info : List UInt8) → (length : Nat) → List.Vector UInt8 length)

/-- `Hkdf::<Sha256>::new(Some(salt), ikm).expand(info, ..)`: nothing past 255 blocks
of output. -/
def hkdfExpand (salt ikm info : List UInt8) (length : Nat) : Option (List.Vector UInt8 length) :=
  if length ≤ 255 * 32 then some (okm salt ikm info length) else none

def keyAt (output : List.Vector UInt8 128) (offset : Nat) (inside : offset + 32 ≤ 128) : Key :=
  ⟨(output.toList.drop offset).take 32, by simp; omega⟩

/-- `derive_keys`: 128 bytes of HKDF under the two randoms as salt, cut into four keys. -/
def deriveKeys (sharedSecret : List UInt8) (clientRandom serverRandom : Key) (info : List UInt8) :
    Except CryptoError KeyMaterial :=
  let salt := clientRandom.toList ++ serverRandom.toList
  match hkdfExpand okm salt sharedSecret info 128 with
  | none => .error (.keyDerivationFailed "HKDF expansion failed")
  | some output =>
      .ok ⟨keyAt output 0 (by decide), keyAt output 32 (by decide), keyAt output 64 (by decide),
        keyAt output 96 (by decide)⟩

def deriveSingleKey (ikm salt info : List UInt8) : Except CryptoError Key :=
  match hkdfExpand okm salt ikm info 32 with
  | none => .error (.keyDerivationFailed "HKDF expansion failed")
  | some output => .ok output

def KeyMaterial.bytes (material : KeyMaterial) : List UInt8 :=
  material.clientWriteKey.toList ++ material.serverWriteKey.toList ++ material.clientHmacKey.toList ++
    material.serverHmacKey.toList

theorem keyAt_append (output : List.Vector UInt8 128) :
    (keyAt output 0 (by decide)).toList ++ (keyAt output 32 (by decide)).toList ++
        (keyAt output 64 (by decide)).toList ++ (keyAt output 96 (by decide)).toList =
      output.toList := by
  obtain ⟨bytes, sized⟩ := output
  simp only [keyAt, List.Vector.toList_mk, List.drop_zero]
  rw [← @List.take_add _ bytes 32 32, ← @List.take_add _ bytes 64 32, ← @List.take_add _ bytes 96 32]
  exact List.take_of_length_le (by omega)

theorem deriveKeys_bytes (sharedSecret : List UInt8) (clientRandom serverRandom : Key) (info : List UInt8) :
    ∃ material, deriveKeys okm sharedSecret clientRandom serverRandom info = .ok material ∧
      material.bytes = (okm (clientRandom.toList ++ serverRandom.toList) sharedSecret info 128).toList := by
  refine ⟨_, rfl, ?_⟩
  rw [KeyMaterial.bytes]
  exact keyAt_append _

end Hkdf

end CoreVpn.Crypto
