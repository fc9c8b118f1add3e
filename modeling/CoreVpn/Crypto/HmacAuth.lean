import CoreVpn.Crypto.Cipher

/-!
# tls-auth: HMAC wrapping of control packets

`HmacAuth` (`corevpn-crypto/src/hmac_auth.rs`). HMAC-SHA256 is third-party
code and enters as the parameter `mac key message`, the 32-byte tag; `verify`
compares tags exactly, as the constant-time comparison does.

`wrap` prepends the tag to the packet and `unwrap` splits it off again, so a
receiver whose receive key is the sender's send key gets the packet back
(`unwrap_wrap`); `fromTaKey` hands a server and a client with default key
directions exactly such a pair of keys.
-/

namespace CoreVpn.Crypto

set_option autoImplicit false

structure HmacAuth where
  txKey : Key
  rxKey : Key
  deriving DecidableEq

namespace HmacAuth

def hmacSize : Nat := 32

def new (txKey rxKey : Key) : HmacAuth := ⟨txKey, rxKey⟩

def fromSingleKey (key : Key) : HmacAuth := ⟨key, key⟩

def taSlice (taKey : List.Vector UInt8 256) (offset : Nat) (inside : offset + 32 ≤ 256) : Key :=
  ⟨(taKey.toList.drop offset).take 32, by simp; omega⟩

/-- `from_ta_key`; an unknown key direction panics in the source and is `none` here. -/
def fromTaKey (taKey : List.Vector UInt8 256) (isServer : Bool) (keyDirection : Option UInt8) :
    Option HmacAuth :=
  match isServer, keyDirection with
  | true, some 0 | true, none =>
      some ⟨taSlice taKey 64 (by decide), taSlice taKey 0 (by decide)⟩
  | true, some 1 => some ⟨taSlice taKey 0 (by decide), taSlice taKey 64 (by decide)⟩
  | false, some 1 | false, none =>
      some ⟨taSlice taKey 0 (by decide), taSlice taKey 64 (by decide)⟩
  | false, some 0 => some ⟨taSlice taKey 64 (by decide), taSlice taKey 0 (by decide)⟩
  | _, _ => none

variable (mac : Key → List UInt8 → List.Vector UInt8 32)

/-- `authenticate`: the tag of an outgoing packet, under the send key. -/
def authenticate (auth : HmacAuth) (data : List UInt8) : List.Vector UInt8 32 :=
  mac auth.txKey data

/-- `verify`: the tag of an incoming packet, under the receive key. -/
def verify (auth : HmacAuth) (data : List UInt8) (expectedHmac : List.Vector UInt8 32) :
    Except CryptoError Unit :=
  if mac auth.rxKey data = expectedHmac then .ok () else .error .hmacVerificationFailed

/-- `wrap`: the tag, then the packet. -/
def wrap (auth : HmacAuth) (data : List UInt8) : List UInt8 :=
  (auth.authenticate mac data).toList ++ data

/-- `unwrap`: split off the leading tag and check it. -/
def unwrap (auth : HmacAuth) (packet : List UInt8) : Except CryptoError (List UInt8) :=
  if short : packet.length < hmacSize then .error .hmacVerificationFailed
  else do
    let hmac : List.Vector UInt8 32 :=
      ⟨packet.take hmacSize, by simp only [List.length_take, hmacSize] at short ⊢; omega⟩
    auth.verify mac (packet.drop hmacSize) hmac
    pure (packet.drop hmacSize)

theorem unwrap_wrap {sender receiver : HmacAuth} (matched : sender.txKey = receiver.rxKey)
    (data : List UInt8) : receiver.unwrap mac (sender.wrap mac data) = .ok data := by
  have long : ¬ (sender.wrap mac data).length < hmacSize := by
    simp [wrap, hmacSize]
  have tag : (⟨(sender.wrap mac data).take hmacSize, by simp [wrap, hmacSize]⟩ :
      List.Vector UInt8 32) = sender.authenticate mac data := by
    apply List.Vector.toList_injective
    simp [wrap, hmacSize]
  have body : (sender.wrap mac data).drop hmacSize = data := by
    simp [wrap, hmacSize]
  simp only [unwrap, long, dite_false, tag, body, verify, authenticate, matched, if_true]
  rfl

theorem fromTaKey_default_keys (taKey : List.Vector UInt8 256) :
    ∃ server client, fromTaKey taKey true none = some server ∧
      fromTaKey taKey false none = some client ∧
      server.txKey = client.rxKey ∧ client.txKey = server.rxKey :=
  ⟨_, _, rfl, rfl, rfl, rfl⟩

end HmacAuth

end CoreVpn.Crypto
