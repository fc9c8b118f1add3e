import CoreVpn.Lib.Base64
import CoreVpn.Lib.RustStr

/-!
# HTTP Basic authentication of the admin interface

`require_auth` (`corevpn-server/src/webui/auth.rs`) guards the admin routes. The password
is `COREVPN_ADMIN_PASSWORD` and the user name is always `admin`. A request passes when its
`Authorization` header is `Basic ` followed by the standard base64 encoding of UTF-8
credentials. The credentials are split at their first `:`: the part before it must be
`admin`, and `constant_time_eq` must accept the part after it against the password.
Every other request gets a 401 with a `WWW-Authenticate` challenge. The same 401 answers
when no password, or an empty one, is configured.

The environment and the header enter as values. `to_str` fails on a header value that is
not visible ASCII; such a header counts as no header.

Exactly one header value passes: `Basic ` and the encoding of `admin:` followed by the
password (`requireAuth_admitted_iff`). This follows from three facts. Base64 decoding
inverts encoding and accepts nothing else. A UTF-8 text is determined by its bytes. The
split at the first `:` of `admin:password` gives back both parts, since `admin` holds no
`:`.

The webhook audit sink builds its Basic header the same way (`build_auth_header`,
`audit/sinks/webhook.rs`). So an admin interface accepts a webhook configured with user
`admin` exactly when the configured password is its own
(`buildAuthHeader_admitted_iff`).
-/

namespace CoreVpn.WebUi

set_option autoImplicit false

open RustStr

def adminUsername : String := "admin"

/-- The response fields `unauthorized_response` sets. -/
structure Response where
  status : Nat
  headers : List (String × String)
  body : String
  deriving DecidableEq

/-- What the middleware does with a request: run the route, or answer it itself. -/
inductive Admission
  | admitted
  | refused (response : Response)
  deriving DecidableEq

/-- `unauthorized_response`: a 401 with a Basic challenge, and the message as body when
there is one. -/
def unauthorizedResponse (message : Option String) : Response where
  status := 401
  headers := [("www-authenticate", "Basic realm=\"CoreVPN Admin\", charset=\"UTF-8\""),
    ("content-type", "text/plain; charset=utf-8")]
  body := message.getD "Unauthorized. Please provide valid credentials."

/-- `constant_time_eq`: texts of different byte lengths differ, and texts of one length are
compared byte by byte. -/
def constantTimeEq (a b : String) : Bool :=
  if (asBytes a).length ≠ (asBytes b).length then false else asBytes a == asBytes b

def credentialsOf (credentials : String) : String × String :=
  let parts := splitn credentials 2 ':'
  (parts.getD 0 "", parts.getD 1 "")

/-- `require_auth`, with the value of `COREVPN_ADMIN_PASSWORD` if it is set, and the
`Authorization` header as `to_str` reads it. -/
def requireAuth (adminPassword : Option String) (authorization : Option String) : Admission :=
  match adminPassword with
  | some expected =>
      if expected.isEmpty then
        .refused (unauthorizedResponse
          (some "Admin password not configured. Set COREVPN_ADMIN_PASSWORD environment variable."))
      else
        match authorization.bind fun auth => stripPrefix auth "Basic " with
        | none => .refused (unauthorizedResponse none)
        | some encoded =>
            match Base64.standard.decode encoded with
            | none => .refused (unauthorizedResponse none)
            | some decoded =>
                match fromUtf8 decoded with
                | none => .refused (unauthorizedResponse none)
                | some credentials =>
                    let given := credentialsOf credentials
                    if given.1 == adminUsername && constantTimeEq given.2 expected then .admitted
                    else .refused (unauthorizedResponse none)
  | none =>
      .refused (unauthorizedResponse
        (some "Admin password not configured. Set COREVPN_ADMIN_PASSWORD environment variable."))

/-! ## Which headers pass -/

theorem constantTimeEq_iff (a b : String) : constantTimeEq a b = true ↔ a = b := by
  unfold constantTimeEq
  split
  · rename_i lengths
    simp only [Bool.false_eq_true, false_iff]
    rintro rfl
    exact lengths rfl
  · rw [beq_iff_eq]
    exact asBytes_injective.eq_iff

def basicHeader (username password : String) : String :=
  "Basic " ++ Base64.standard.encode (asBytes (username ++ ":" ++ password))

theorem credentialsOf_admin (password : String) : credentialsOf (adminUsername ++ ":" ++ password) = (adminUsername, password) := by
  have joined : adminUsername ++ ":" ++ password = adminUsername ++ String.singleton ':' ++ password := rfl
  have clean : ':' ∉ adminUsername.toList := by decide
  rw [credentialsOf, joined, splitn_two_append _ _ clean]
  rfl

theorem eq_of_credentialsOf {credentials password : String} (nonempty : password ≠ "")
    (given : credentialsOf credentials = (adminUsername, password)) :
    credentials = adminUsername ++ ":" ++ password := by
  unfold credentialsOf at given
  rcases splitn_two_cases credentials ':' with whole | ⟨front, rest, _, joined, split⟩
  · -- without a `:` there is no password
    rw [whole] at given
    simp only [Prod.mk.injEq] at given
    exact absurd given.2.symm nonempty
  · rw [split] at given
    simp only [Prod.mk.injEq] at given
    have user : front = adminUsername := given.1
    have secret : rest = password := given.2
    rw [joined, user, secret]
    rfl

theorem requireAuth_admitted_iff (adminPassword authorization : Option String) :
    requireAuth adminPassword authorization = .admitted ↔
      ∃ expected, adminPassword = some expected ∧ expected ≠ "" ∧
        authorization = some (basicHeader adminUsername expected) := by
  constructor
  · intro admitted
    unfold requireAuth at admitted
    split at admitted
    · rename_i expected
      split at admitted
      · cases admitted
      · rename_i nonempty
        split at admitted
        · cases admitted
        · rename_i encoded stripped
          split at admitted
          · cases admitted
          · rename_i decoded canonical
            split at admitted
            · cases admitted
            · rename_i credentials utf8
              dsimp only at admitted
              split at admitted
              · rename_i accepted
                have filled : expected ≠ "" := fun empty => nonempty (by rw [empty]; rfl)
                simp only [Bool.and_eq_true, beq_iff_eq, constantTimeEq_iff] at accepted
                have fields : credentialsOf credentials = (adminUsername, expected) := by
                  rw [← accepted.1, ← accepted.2]
                have whole := eq_of_credentialsOf filled fields
                have bytes := asBytes_of_fromUtf8 utf8
                have encoding := (Base64.standard.decode_eq_some_iff encoded decoded).mp canonical
                obtain ⟨auth, present, prefixed⟩ := Option.bind_eq_some_iff.mp stripped
                refine ⟨expected, rfl, filled, ?_⟩
                rw [present, eq_append_of_stripPrefix prefixed, ← encoding, ← bytes, whole]
                rfl
              · cases admitted
    · cases admitted
  · rintro ⟨expected, rfl, filled, rfl⟩
    have nonempty : expected.isEmpty = false := by
      rw [Bool.eq_false_iff, ne_eq, String.isEmpty_iff]
      exact filled
    have stripped : (some (basicHeader adminUsername expected)).bind (fun auth => stripPrefix auth "Basic ") =
        some (Base64.standard.encode (asBytes (adminUsername ++ ":" ++ expected))) := by
      rw [Option.bind_some, basicHeader, stripPrefix_append]
    have accepted : ((credentialsOf (adminUsername ++ ":" ++ expected)).1 == adminUsername &&
        constantTimeEq (credentialsOf (adminUsername ++ ":" ++ expected)).2 expected) = true := by
      rw [credentialsOf_admin, Bool.and_eq_true, beq_iff_eq, constantTimeEq_iff]
      exact ⟨rfl, rfl⟩
    simp only [requireAuth, nonempty, Bool.false_eq_true, if_false, stripped, Base64.Engine.decode_encode,
      fromUtf8_asBytes, accepted, if_true]

example : requireAuth (some "s3cret") (some "Basic YWRtaW46czNjcmV0") = .admitted := by decide

example : requireAuth (some "s3cret") (some "Basic YWRtaW46czNjcmV0PQ==") ≠ .admitted := by decide

/-! ## The webhook sink's header -/

/-- `WebhookAuth` (`audit/sinks/webhook.rs`); the OAuth2 and HMAC variants carry fields
`build_auth_header` does not read. -/
inductive WebhookAuth
  | bearer (token : String)
  | basic (username password : String)
  | apiKey (header value : String)
  | oAuth2
  | hmac
  deriving DecidableEq

/-- `WebhookSink::build_auth_header`: the header's name and value, for the schemes that
are a header. -/
def buildAuthHeader : Option WebhookAuth → Option (String × String)
  | some (.bearer token) => some ("Authorization", "Bearer " ++ token)
  | some (.basic username password) =>
      some ("Authorization", "Basic " ++ Base64.standard.encode (asBytes (username ++ ":" ++ password)))
  | some (.apiKey header value) => some (header, value)
  | _ => none

/-- A webhook configured with Basic credentials of `admin` passes the admin interface's
check exactly when its password is the configured, non-empty one. -/
theorem buildAuthHeader_admitted_iff (configured password : String) :
    requireAuth (some configured)
        ((buildAuthHeader (some (.basic adminUsername password))).map Prod.snd) = .admitted ↔
      configured ≠ "" ∧ password = configured := by
  rw [requireAuth_admitted_iff]
  constructor
  · rintro ⟨expected, same, filled, header⟩
    cases same
    refine ⟨filled, ?_⟩
    have encodings := (String.append_right_inj "Basic ").mp (Option.some.inj header)
    have bytes := Base64.standard.encode_injective encodings
    have texts := asBytes_injective bytes
    exact (String.append_right_inj (adminUsername ++ ":")).mp texts
  · rintro ⟨filled, rfl⟩
    exact ⟨password, rfl, filled, rfl⟩

end CoreVpn.WebUi
