import CoreVpn.Crypto.Cipher

/-!
# Opcodes, key ids and protocol errors

The first byte of every OpenVPN packet holds the opcode in its high five bits
and the key id in its low three (`corevpn-protocol/src/opcode.rs`). The byte
codec is exact in both directions for every opcode and every key id below 8
(`fromByte_toByte`, `toByte_fromByte`), which the packet codec relies on.
-/

namespace CoreVpn.Protocol

open CoreVpn.Crypto

set_option autoImplicit false

/-- `enum ProtocolError`, the variants the modelled functions return. -/
inductive ProtocolError
  | invalidPacket (message : String)
  | unknownOpcode (opcode : UInt8)
  | packetTooShort (expected got : Nat)
  | replayDetected
  | keyNotAvailable (keyId : UInt8)
  | cryptoError (error : CryptoError)
  deriving DecidableEq, Repr

inductive OpCode
  | controlV1
  | ackV1
  | dataV1
  | hardResetClientV2
  | hardResetServerV2
  | softResetV1
  | dataV2
  | hardResetClientV3
  | controlWkcV1
  deriving DecidableEq, Repr

structure KeyId where
  val : UInt8
  deriving DecidableEq, Repr

namespace KeyId

instance : Inhabited KeyId := ⟨⟨0⟩⟩

def new (id : UInt8) : KeyId := ⟨id &&& 0x07⟩

def fromByte (byte : UInt8) : KeyId := ⟨byte &&& 0x07⟩

def next (keyId : KeyId) : KeyId := ⟨(keyId.val + 1) &&& 0x07⟩

theorem fromByte_lt (byte : UInt8) : (fromByte byte).val.toNat < 8 := by
  rw [fromByte, Wire.toNat_and_seven]
  omega

end KeyId

namespace OpCode

def asU8 : OpCode → UInt8
  | controlV1 => 4
  | ackV1 => 5
  | dataV1 => 6
  | hardResetClientV2 => 7
  | hardResetServerV2 => 8
  | softResetV1 => 3
  | dataV2 => 9
  | hardResetClientV3 => 10
  | controlWkcV1 => 11

/-- `OpCode::from_byte`: the opcode in the high five bits. -/
def fromByte (byte : UInt8) : Except ProtocolError OpCode :=
  let opcode := byte >>> 3
  match opcode.toNat with
  | 3 => .ok softResetV1
  | 4 => .ok controlV1
  | 5 => .ok ackV1
  | 6 => .ok dataV1
  | 7 => .ok hardResetClientV2
  | 8 => .ok hardResetServerV2
  | 9 => .ok dataV2
  | 10 => .ok hardResetClientV3
  | 11 => .ok controlWkcV1
  | _ => .error (.unknownOpcode opcode)

def toByte (opcode : OpCode) (keyId : KeyId) : UInt8 :=
  (opcode.asU8 <<< 3) ||| (keyId.val &&& 0x07)

def isControl : OpCode → Bool
  | controlV1 | ackV1 | hardResetClientV2 | hardResetServerV2 | softResetV1
  | hardResetClientV3 | controlWkcV1 => true
  | dataV1 | dataV2 => false

def isData : OpCode → Bool
  | dataV1 | dataV2 => true
  | _ => false

def isHardReset : OpCode → Bool
  | hardResetClientV2 | hardResetServerV2 | hardResetClientV3 => true
  | _ => false

theorem isControl_eq_not_isData (opcode : OpCode) : opcode.isControl = !opcode.isData := by
  cases opcode <;> rfl

theorem asU8_lt (opcode : OpCode) : opcode.asU8.toNat < 32 := by
  cases opcode <;> decide

theorem fromByte_of_shiftRight {byte : UInt8} {opcode : OpCode}
    (high : (byte >>> 3).toNat = opcode.asU8.toNat) : fromByte byte = .ok opcode := by
  unfold fromByte
  simp only [high]
  cases opcode <;> rfl

theorem shiftRight_of_fromByte {byte : UInt8} {opcode : OpCode}
    (decoded : fromByte byte = .ok opcode) : byte >>> 3 = opcode.asU8 := by
  unfold fromByte at decoded
  dsimp only at decoded
  apply UInt8.toNat.inj
  split at decoded <;> (try cases decoded) <;> simp_all [asU8]

theorem fromByte_toByte (opcode : OpCode) (keyId : KeyId) :
    fromByte (opcode.toByte keyId) = .ok opcode := by
  apply fromByte_of_shiftRight
  rw [toByte, Wire.toNat_shiftRight_three, Wire.toNat_pack (asU8_lt opcode)]
  omega

theorem keyId_fromByte_toByte (opcode : OpCode) {keyId : KeyId} (small : keyId.val.toNat < 8) :
    KeyId.fromByte (opcode.toByte keyId) = keyId := by
  rw [KeyId.fromByte, KeyId.mk.injEq]
  apply UInt8.toNat.inj
  rw [Wire.toNat_and_seven, toByte, Wire.toNat_pack (asU8_lt opcode)]
  omega

theorem toByte_fromByte {byte : UInt8} {opcode : OpCode} (decoded : fromByte byte = .ok opcode) :
    opcode.toByte (KeyId.fromByte byte) = byte := by
  rw [toByte, KeyId.fromByte, ← shiftRight_of_fromByte decoded]
  have twice : byte &&& 0x07 &&& 0x07 = byte &&& 7 := by
    apply UInt8.toNat.inj
    rw [Wire.toNat_and_seven, Wire.toNat_and_seven]
    omega
  rw [twice, Wire.pack_split]

end OpCode

end CoreVpn.Protocol
