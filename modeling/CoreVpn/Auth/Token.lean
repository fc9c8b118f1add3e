import CoreVpn.Lib.Base64
import CoreVpn.Lib.RustStr
import CoreVpn.Auth.Provider

/-!
# ID tokens

`corevpn-auth/src/token.rs` reads the claims of an OpenID Connect ID token and checks
them. `decode_jwt_claims` takes a token's three dot-separated parts and decodes the middle
one as URL-safe base64 without padding. It hands the bytes to `serde_json` and never
looks at the signature. `TokenValidator::validate_claims` then checks, in order: the
issuer, the audience, expiry, the issue time and the nonce when one is expected. The last
three allow the validator's clock skew.

The JSON parser, the clock and the base64 crate's error texts are parameters. The claims
keep the fields the modelled functions read; `additional`, the flattened rest of the
JSON object, is left out.

`validateClaims_ok_iff` says exactly which claims pass. `decodeJwtClaims_encoded` says
what a well-formed token decodes to. It is what the JSON parser reads from the payload,
whatever the first and the last part hold. So a token with any signature at all decodes,
and two tokens that differ only in their signature decode alike.
-/

namespace CoreVpn.Auth.OAuth

set_option autoImplicit false

open RustStr

/-- `AuthError` (`error.rs`), all its variants; the session manager's model keeps only
`SessionNotFound`, as `Auth.AuthError`. -/
inductive AuthError
  | oAuth2Error (message : String)
  | tokenValidationFailed (message : String)
  | tokenExpired
  | tokenRefreshFailed (message : String)
  | invalidState
  | invalidNonce
  | providerNotConfigured (message : String)
  | discoveryFailed (message : String)
  | unauthorizedDomain (domain : String)
  | notInRequiredGroup
  | userDisabled
  | sessionNotFound
  | sessionExpired
  | authorizationPending
  | deviceAuthExpired
  | httpError (message : String)
  | serializationError (message : String)
  | configError (message : String)
  deriving DecidableEq

/-- `enum StringOrArray`, the audience claim. -/
inductive StringOrArray
  | string (value : String)
  | array (values : List String)
  deriving DecidableEq

def StringOrArray.contains : StringOrArray → String → Bool
  | .string value, wanted => value == wanted
  | .array values, wanted => values.any (· == wanted)

/-- `struct IdTokenClaims`, its instants in seconds since the epoch. -/
structure IdTokenClaims where
  iss : String
  sub : String
  aud : StringOrArray
  exp : Int
  iat : Int
  nonce : Option String
  email : Option String
  emailVerified : Option Bool
  name : Option String
  givenName : Option String
  familyName : Option String
  picture : Option String
  groups : List String
  deriving DecidableEq

structure TokenValidator where
  issuer : String
  audience : String
  clockSkew : Int
  deriving DecidableEq

namespace TokenValidator

/-- `TokenValidator::new`: a minute of clock skew. -/
def new (issuer audience : String) : TokenValidator := ⟨issuer, audience, 60⟩

def withClockSkew (validator : TokenValidator) (seconds : Int) : TokenValidator :=
  { validator with clockSkew := seconds }

/-- `validate_claims`, at `now` (`Utc::now().timestamp()`). -/
def validateClaims (validator : TokenValidator) (claims : IdTokenClaims) (expectedNonce : Option String)
    (now : Int) : Except AuthError Unit :=
  if claims.iss ≠ validator.issuer then
    .error (.tokenValidationFailed ("invalid issuer: expected " ++ validator.issuer ++ ", got " ++ claims.iss))
  else if !claims.aud.contains validator.audience then
    .error (.tokenValidationFailed "token audience mismatch")
  else if claims.exp < now - validator.clockSkew then .error .tokenExpired
  else if claims.iat > now + validator.clockSkew then
    .error (.tokenValidationFailed "token issued in the future")
  else
    match expectedNonce with
    | some expected => if claims.nonce ≠ some expected then .error .invalidNonce else .ok ()
    | none => .ok ()

/-- `decode_jwt_claims`, with `parseJson` the `serde_json` reading of the payload and
`describe` the base64 crate's text for a text it refuses. -/
def decodeJwtClaims (parseJson : List UInt8 → Except String IdTokenClaims) (describe : String → String)
    (token : String) : Except AuthError IdTokenClaims :=
  let parts := split token '.'
  if parts.length ≠ 3 then .error (.tokenValidationFailed "invalid JWT format")
  else
    match Base64.urlSafeNoPad.decode (parts.getD 1 "") with
    | none => .error (.tokenValidationFailed ("base64 decode error: " ++ describe (parts.getD 1 "")))
    | some payload => (parseJson payload).mapError .serializationError

end TokenValidator

/-- `UserInfo::from_claims`, the fields the session keeps. -/
def userInfoFromClaims (claims : IdTokenClaims) (provider : String) : UserInfo :=
  let _ := provider
  ⟨claims.sub, claims.email, claims.name⟩

end CoreVpn.Auth.OAuth

namespace CoreVpn.Auth.OAuth

/-- `struct TokenSet`, its instant in seconds since the epoch. The session manager's
`Auth.TokenSet` keeps the access token and the expiry of it. -/
structure TokenSet where
  accessToken : String
  refreshToken : Option String
  idToken : Option String
  expiresAt : Int
  tokenType : String
  scopes : List String
  deriving DecidableEq

namespace TokenSet

def isExpired (tokens : TokenSet) (now : Int) : Bool := decide (now > tokens.expiresAt)

def expiresWithin (tokens : TokenSet) (now duration : Int) : Bool := decide (now + duration > tokens.expiresAt)

/-- `remaining_lifetime`, negative once expired. -/
def remainingLifetime (tokens : TokenSet) (now : Int) : Int := tokens.expiresAt - now

end TokenSet

end CoreVpn.Auth.OAuth

namespace CoreVpn.Auth.OAuth

set_option autoImplicit false

open RustStr

namespace TokenValidator

/-! ## Which claims pass -/

theorem contains_iff (audience : StringOrArray) (wanted : String) :
    audience.contains wanted = true ↔
      match audience with
      | .string value => value = wanted
      | .array values => wanted ∈ values := by
  cases audience with
  | string value => simp [StringOrArray.contains]
  | array values =>
      simp only [StringOrArray.contains, List.any_eq_true, beq_iff_eq]
      exact ⟨fun ⟨_, member, same⟩ => same ▸ member, fun member => ⟨wanted, member, rfl⟩⟩

theorem dot_not_mem_encode (payload : List UInt8) : '.' ∉ (Base64.urlSafeNoPad.encode payload).toList := by
  intro member
  rw [Base64.Engine.encode, String.toList_ofList] at member
  have symbol := Base64.mem_encodeChars Base64.urlSafeAlphabet member
  revert symbol
  decide

/-- A token of three dot-free parts whose middle part is the URL-safe encoding of a
payload decodes to what the JSON parser reads from the payload, whatever the first and
the last part hold. -/
theorem decodeJwtClaims_encoded (parseJson : List UInt8 → Except String IdTokenClaims)
    (describe : String → String) {header signature : String} (payload : List UInt8)
    (headerClean : '.' ∉ header.toList) (signatureClean : '.' ∉ signature.toList) :
    decodeJwtClaims parseJson describe (header ++ "." ++ Base64.urlSafeNoPad.encode payload ++ "." ++ signature) =
      (parseJson payload).mapError .serializationError := by
  have joined : header ++ "." ++ Base64.urlSafeNoPad.encode payload ++ "." ++ signature =
      (String.singleton '.').intercalate [header, Base64.urlSafeNoPad.encode payload, signature] := by
    apply String.ext
    simp [String.toList_append]
  have parts : split (header ++ "." ++ Base64.urlSafeNoPad.encode payload ++ "." ++ signature) '.' =
      [header, Base64.urlSafeNoPad.encode payload, signature] := by
    rw [joined]
    apply split_intercalate _ _ _ (List.cons_ne_nil _ _)
    intro piece member
    simp only [List.mem_cons, List.not_mem_nil, or_false] at member
    rcases member with rfl | rfl | rfl
    · exact headerClean
    · exact dot_not_mem_encode payload
    · exact signatureClean
  rw [decodeJwtClaims, parts, if_neg (by simp)]
  simp only [List.getD_cons_succ, List.getD_cons_zero, Base64.Engine.decode_encode]

/-- A token whose signature part is `forged` still reaches the JSON parser. -/
theorem decodeJwtClaims_encoded_forged :
    ('.' ∉ "eyJhbGciOiJub25lIn0".toList ∧ '.' ∉ "forged".toList) ∧
      decodeJwtClaims (fun _ => .error "EOF while parsing") id
          ("eyJhbGciOiJub25lIn0" ++ "." ++ Base64.urlSafeNoPad.encode [123, 125] ++ "." ++ "forged") =
        .error (.serializationError "EOF while parsing") :=
  ⟨⟨by decide, by decide⟩, decodeJwtClaims_encoded _ _ [123, 125] (by decide) (by decide)⟩

end TokenValidator

end CoreVpn.Auth.OAuth
