import CoreVpn.Lib.Base64
import CoreVpn.Lib.PercentEncoding
import CoreVpn.Lib.Wire
import CoreVpn.Auth.Token
import CoreVpn.Auth.Provider

/-!
# The OAuth2 flows and the provider configuration

`corevpn-auth/src/flow.rs` and the configuration half of `provider.rs`.

`AuthFlow::authorization_url` writes the provider's authorization endpoint, a `?`, and
the request's parameters: the client, `response_type=code`, the redirect URI, the CSRF
state, the nonce, the PKCE challenge with method `S256`, and the scopes. Then come the
configuration's additional parameters. Every value is percent-encoded. The names are
written as they are. `exchange_code`, `refresh_token` and `DeviceAuthFlow::poll` each post
a form to the token endpoint and build a `TokenSet` from the answer. They differ in the
form and in the error a refused answer becomes. `generate_vpn_auth_challenge` puts a
device code into an OpenVPN `CRV1` challenge.

HTTP enters as a function from a URL and a form to a `Reply`. The JSON readers, SHA-256,
the random bytes and the UUIDs enter as parameters too. Instants are whole seconds since
the epoch. chrono's panics for lifetimes beyond its range are left out.

What the authorization server reads from the URL is the request's parameters and the
additional ones, decoded (`authorizationUrl_query`). So it can check the verifier that
`exchange_code` posts against the challenge (`exchangeCode_passes_pkce`). An endpoint
that has a query of its own breaks this: the `?` written after it ends up inside the
endpoint's last value, and `client_id` is lost
(`authorizationUrl_query_of_endpoint_query`). A token lifetime of 2^63 seconds or more
wraps to a negative one in `as i64`, so the token set is expired as soon as it is issued
(`toTokenSet_isExpired_iff`).
-/

namespace CoreVpn.Auth.OAuth

set_option autoImplicit false

open RustStr PercentEncoding

/-! ## Provider configuration -/

inductive ProviderType
  | google
  | microsoft
  | okta
  | generic
  deriving DecidableEq

def ProviderType.display : ProviderType → String
  | .google => "google"
  | .microsoft => "microsoft"
  | .okta => "okta"
  | .generic => "generic"

/-- `struct ProviderConfig`. The claim names are read by nothing modelled and are left out.
`additional_params` is a hash map, kept as its entries in iteration order. -/
structure ProviderConfig where
  providerType : ProviderType
  clientId : String
  clientSecret : String
  issuerUrl : String
  authorizationEndpoint : Option String
  tokenEndpoint : Option String
  userinfoEndpoint : Option String
  deviceAuthorizationEndpoint : Option String
  jwksUri : Option String
  scopes : List String
  allowedDomains : List String
  requiredGroups : List String
  additionalParams : List (String × String)
  deriving DecidableEq

/-- `HashMap::insert`: an entry of the key is replaced. -/
def insertParam (params : List (String × String)) (key value : String) : List (String × String) :=
  params.filter (·.1 != key) ++ [(key, value)]

namespace ProviderConfig

def google (clientId clientSecret : String) (allowedDomain : Option String) : ProviderConfig :=
  let config : ProviderConfig :=
    { providerType := .google
      clientId := clientId
      clientSecret := clientSecret
      issuerUrl := "https://accounts.google.com"
      authorizationEndpoint := some "https://accounts.google.com/o/oauth2/v2/auth"
      tokenEndpoint := some "https://oauth2.googleapis.com/token"
      userinfoEndpoint := some "https://openidconnect.googleapis.com/v1/userinfo"
      deviceAuthorizationEndpoint := some "https://oauth2.googleapis.com/device/code"
      jwksUri := some "https://www.googleapis.com/oauth2/v3/certs"
      scopes := ["openid", "email", "profile"]
      allowedDomains := []
      requiredGroups := []
      additionalParams := [] }
  match allowedDomain with
  | some domain =>
      -- the `hd` parameter restricts Google's sign-in page to the domain
      { config with
        allowedDomains := config.allowedDomains ++ [domain]
        additionalParams := insertParam config.additionalParams "hd" domain }
  | none => config

def microsoft (clientId clientSecret tenantId : String) : ProviderConfig :=
  let baseUrl := "https://login.microsoftonline.com/" ++ tenantId
  { providerType := .microsoft
    clientId := clientId
    clientSecret := clientSecret
    issuerUrl := baseUrl ++ "/v2.0"
    authorizationEndpoint := some (baseUrl ++ "/oauth2/v2.0/authorize")
    tokenEndpoint := some (baseUrl ++ "/oauth2/v2.0/token")
    userinfoEndpoint := some "https://graph.microsoft.com/oidc/userinfo"
    deviceAuthorizationEndpoint := some (baseUrl ++ "/oauth2/v2.0/devicecode")
    jwksUri := some (baseUrl ++ "/discovery/v2.0/keys")
    scopes := ["openid", "email", "profile", "offline_access"]
    allowedDomains := []
    requiredGroups := []
    additionalParams := [] }

def okta (clientId clientSecret domain : String) (authServerId : Option String) : ProviderConfig :=
  let authServer := authServerId.getD "default"
  let baseUrl := "https://" ++ domain ++ "/oauth2/" ++ authServer
  { providerType := .okta
    clientId := clientId
    clientSecret := clientSecret
    issuerUrl := baseUrl
    authorizationEndpoint := some (baseUrl ++ "/v1/authorize")
    tokenEndpoint := some (baseUrl ++ "/v1/token")
    userinfoEndpoint := some (baseUrl ++ "/v1/userinfo")
    deviceAuthorizationEndpoint := some (baseUrl ++ "/v1/device/authorize")
    jwksUri := some (baseUrl ++ "/v1/keys")
    scopes := ["openid", "email", "profile", "groups", "offline_access"]
    allowedDomains := []
    requiredGroups := []
    additionalParams := [] }

/-- `ProviderConfig::generic`: the endpoints are left to discovery. -/
def generic (clientId clientSecret issuerUrl : String) : ProviderConfig :=
  { providerType := .generic
    clientId := clientId
    clientSecret := clientSecret
    issuerUrl := issuerUrl
    authorizationEndpoint := none
    tokenEndpoint := none
    userinfoEndpoint := none
    deviceAuthorizationEndpoint := none
    jwksUri := none
    scopes := ["openid", "email", "profile"]
    allowedDomains := []
    requiredGroups := []
    additionalParams := [] }

def validate (config : ProviderConfig) : Except AuthError Unit :=
  if config.clientId.isEmpty then .error (.configError "client_id is required")
  else if config.clientSecret.isEmpty then .error (.configError "client_secret is required")
  else if config.issuerUrl.isEmpty then .error (.configError "issuer_url is required")
  else .ok ()

def toChecks (config : ProviderConfig) : Auth.ProviderConfig := ⟨config.allowedDomains, config.requiredGroups⟩

theorem google_toChecks (clientId clientSecret : String) (allowedDomain : Option String) :
    (google clientId clientSecret allowedDomain).toChecks = Auth.ProviderConfig.google allowedDomain := by
  cases allowedDomain <;> rfl

theorem validate_eq_ok_iff (config : ProviderConfig) :
    config.validate = .ok () ↔ config.clientId ≠ "" ∧ config.clientSecret ≠ "" ∧ config.issuerUrl ≠ "" := by
  unfold validate
  by_cases noClient : config.clientId = ""
  · simp [noClient]
  · by_cases noSecret : config.clientSecret = ""
    · simp [noClient, noSecret]
    · by_cases noIssuer : config.issuerUrl = ""
      · simp [noClient, noSecret, noIssuer]
      · simp [noClient, noSecret, noIssuer]

end ProviderConfig

/-- `enum KnownProvider` (`lib.rs`). -/
inductive KnownProvider
  | google (clientId clientSecret : String) (allowedDomain : Option String)
  | microsoft (clientId clientSecret tenantId : String)
  | okta (clientId clientSecret domain : String) (authServerId : Option String)
  | generic (name clientId clientSecret issuerUrl : String)
  deriving DecidableEq

namespace KnownProvider

def issuerUrl : KnownProvider → String
  | .google .. => "https://accounts.google.com"
  | .microsoft _ _ tenantId => "https://login.microsoftonline.com/" ++ tenantId ++ "/v2.0"
  | .okta _ _ domain authServerId =>
      match authServerId with
      | some id => "https://" ++ domain ++ "/oauth2/" ++ id
      | none => "https://" ++ domain ++ "/oauth2/default"
  | .generic _ _ _ issuerUrl => issuerUrl

def clientId : KnownProvider → String
  | .google clientId .. | .microsoft clientId .. | .okta clientId .. | .generic _ clientId .. => clientId

def clientSecret : KnownProvider → String
  | .google _ clientSecret _ | .microsoft _ clientSecret _ | .okta _ clientSecret .. | .generic _ _ clientSecret _ =>
      clientSecret

def providerType : KnownProvider → String
  | .google .. => "google"
  | .microsoft .. => "microsoft"
  | .okta .. => "okta"
  | .generic .. => "generic"

def providerConfig : KnownProvider → ProviderConfig
  | .google clientId clientSecret allowedDomain => .google clientId clientSecret allowedDomain
  | .microsoft clientId clientSecret tenantId => .microsoft clientId clientSecret tenantId
  | .okta clientId clientSecret domain authServerId => .okta clientId clientSecret domain authServerId
  | .generic _ clientId clientSecret issuerUrl => .generic clientId clientSecret issuerUrl

end KnownProvider

/-- Discovery metadata, the fields `discover` reads. -/
structure OidcMetadata where
  issuer : String
  authorizationEndpoint : String
  tokenEndpoint : String
  userinfoEndpoint : Option String
  deviceAuthorizationEndpoint : Option String
  jwksUri : String
  deriving DecidableEq

/-- An HTTP exchange as the flows see it: the request failed, or the server answered with
a status code and a body. -/
inductive Reply
  | failed (message : String)
  | answered (status : Nat) (body : String)
  deriving DecidableEq

def isSuccess (status : Nat) : Bool := 200 ≤ status && status < 300

/-- `struct OAuthProvider`; the HTTP client is left out. -/
structure OAuthProvider where
  config : ProviderConfig
  metadata : Option OidcMetadata

namespace OAuthProvider

def new (config : ProviderConfig) : OAuthProvider := ⟨config, none⟩

/-- `OAuthProvider::discover`, with `get` the HTTP client, `statusText` the status's
display and `readMetadata` the JSON reader. -/
def discover (get : String → Reply) (statusText : Nat → String) (readMetadata : String → Except String OidcMetadata)
    (provider : OAuthProvider) : Except AuthError OAuthProvider :=
  let discoveryUrl := provider.config.issuerUrl ++ "/.well-known/openid-configuration"
  match get discoveryUrl with
  | .failed message => .error (.httpError message)
  | .answered status body =>
      if !isSuccess status then .error (.discoveryFailed ("HTTP " ++ statusText status ++ ": " ++ body))
      else
        match readMetadata body with
        | .error message => .error (.httpError message)
        | .ok metadata =>
            .ok { config :=
                    { provider.config with
                      authorizationEndpoint := some metadata.authorizationEndpoint
                      tokenEndpoint := some metadata.tokenEndpoint
                      userinfoEndpoint := metadata.userinfoEndpoint
                      deviceAuthorizationEndpoint := metadata.deviceAuthorizationEndpoint
                      jwksUri := some metadata.jwksUri }
                  metadata := some metadata }

def configuredEndpoint (endpoint : Option String) (field : String) : Except AuthError String :=
  match endpoint with
  | some url => .ok url
  | none => .error (.configError (field ++ " not configured"))

def authorizationEndpoint (provider : OAuthProvider) : Except AuthError String :=
  configuredEndpoint provider.config.authorizationEndpoint "authorization_endpoint"

def tokenEndpoint (provider : OAuthProvider) : Except AuthError String :=
  configuredEndpoint provider.config.tokenEndpoint "token_endpoint"

def deviceAuthorizationEndpoint (provider : OAuthProvider) : Except AuthError String :=
  configuredEndpoint provider.config.deviceAuthorizationEndpoint "device_authorization_endpoint"

end OAuthProvider

/-! ## Authorization state and PKCE -/

structure AuthState where
  state : String
  nonce : String
  codeVerifier : String
  createdAt : Int
  expiresAt : Int
  metadata : List (String × String)
  deriving DecidableEq

namespace AuthState

/-- `generate_code_verifier`: 32 random bytes, URL-safe base64 without padding. -/
def generateCodeVerifier (randomBytes : Vector UInt8 32) : String := Base64.urlSafeNoPad.encode randomBytes.toList

/-- `AuthState::new`, at `now`, with the two UUIDs' texts and the verifier's random bytes. -/
def new (lifetime : Nat) (now : Int) (state nonce : String) (randomBytes : Vector UInt8 32) : AuthState where
  state := state
  nonce := nonce
  codeVerifier := generateCodeVerifier randomBytes
  createdAt := now
  expiresAt := now + lifetime
  metadata := []

def isExpired (authState : AuthState) (now : Int) : Bool := decide (now > authState.expiresAt)

/-- `code_challenge`: the URL-safe encoding of the SHA-256 digest of the verifier. -/
def codeChallenge (sha256 : List UInt8 → Vector UInt8 32) (authState : AuthState) : String :=
  Base64.urlSafeNoPad.encode (sha256 (asBytes authState.codeVerifier)).toList

end AuthState

/-- RFC 7636 §4.1: a code verifier is 43 to 128 unreserved characters. -/
def IsCodeVerifier (verifier : String) : Prop :=
  43 ≤ verifier.length ∧ verifier.length ≤ 128 ∧ ∀ c ∈ verifier.toList, c ∈ unreservedChars

def s256Verifies (sha256 : List UInt8 → Vector UInt8 32) (challenge verifier : String) : Bool :=
  Base64.urlSafeNoPad.encode (sha256 (asBytes verifier)).toList == challenge

/-! ## The authorization code flow -/

structure AuthFlow where
  provider : OAuthProvider
  redirectUri : String

namespace AuthFlow

def new (provider : OAuthProvider) (redirectUri : String) : AuthFlow := ⟨provider, redirectUri⟩

def authorizationParams (sha256 : List UInt8 → Vector UInt8 32) (flow : AuthFlow) (authState : AuthState) :
    List (String × String) :=
  let config := flow.provider.config
  [("client_id", config.clientId), ("response_type", "code"), ("redirect_uri", flow.redirectUri),
      ("state", authState.state), ("nonce", authState.nonce), ("code_challenge", authState.codeChallenge sha256),
      ("code_challenge_method", "S256")] ++
    [("scope", " ".intercalate config.scopes)]

def pushParam (url : String) (param : (String × String) × Nat) : String :=
  (if param.2 > 0 then url ++ "&" else url) ++ param.1.1 ++ "=" ++ encode param.1.2

def pushAdditional (url : String) (param : String × String) : String :=
  url ++ "&" ++ param.1 ++ "=" ++ encode param.2

def authorizationUrl (sha256 : List UInt8 → Vector UInt8 32) (flow : AuthFlow) (authState : AuthState) :
    Except AuthError String := do
  let endpoint ← flow.provider.authorizationEndpoint
  let url := (authorizationParams sha256 flow authState).zipIdx.foldl pushParam (endpoint ++ "?")
  pure (flow.provider.config.additionalParams.foldl pushAdditional url)

def exchangeCodeParams (flow : AuthFlow) (code : String) (authState : AuthState) : List (String × String) :=
  let config := flow.provider.config
  [("grant_type", "authorization_code"), ("client_id", config.clientId), ("client_secret", config.clientSecret),
    ("code", code), ("redirect_uri", flow.redirectUri), ("code_verifier", authState.codeVerifier)]

end AuthFlow

/-! ## Token requests -/

structure TokenResponse where
  accessToken : String
  refreshToken : Option String
  idToken : Option String
  expiresIn : Option UInt64
  tokenType : String
  scope : Option String
  deriving DecidableEq

def TokenResponse.toTokenSet (response : TokenResponse) (now : Int) : TokenSet where
  accessToken := response.accessToken
  refreshToken := response.refreshToken
  idToken := response.idToken
  -- `expires_in.unwrap_or(3600) as i64` reinterprets the bits as a signed number
  expiresAt := now + (response.expiresIn.getD 3600).toInt64.toInt
  tokenType := response.tokenType
  scopes := (response.scope.map fun scope => split scope ' ').getD []

def requestTokens (post : String → List (String × String) → Reply)
    (readTokens : String → Except String TokenResponse) (endpoint : Except AuthError String)
    (params : List (String × String)) (refused : String → AuthError) (now : Int) : Except AuthError TokenSet := do
  let endpoint ← endpoint
  match post endpoint params with
  | .failed message => .error (.httpError message)
  | .answered status body =>
      if !isSuccess status then .error (refused body)
      else
        match readTokens body with
        | .error message => .error (.httpError message)
        | .ok response => .ok (response.toTokenSet now)

namespace AuthFlow

def exchangeCode (post : String → List (String × String) → Reply) (readTokens : String → Except String TokenResponse)
    (flow : AuthFlow) (code : String) (authState : AuthState) (now : Int) : Except AuthError TokenSet :=
  requestTokens post readTokens flow.provider.tokenEndpoint (exchangeCodeParams flow code authState) .oAuth2Error now

def refreshToken (post : String → List (String × String) → Reply) (readTokens : String → Except String TokenResponse)
    (flow : AuthFlow) (refreshToken : String) (now : Int) : Except AuthError TokenSet :=
  let config := flow.provider.config
  requestTokens post readTokens flow.provider.tokenEndpoint
    [("grant_type", "refresh_token"), ("client_id", config.clientId), ("client_secret", config.clientSecret),
      ("refresh_token", refreshToken)]
    .tokenRefreshFailed now

end AuthFlow

/-! ## The device flow -/

structure DeviceAuthFlow where
  provider : OAuthProvider

structure DeviceAuthResponse where
  deviceCode : String
  userCode : String
  verificationUri : String
  verificationUriComplete : Option String
  expiresIn : UInt64
  interval : UInt64
  deriving DecidableEq

structure ErrorResponse where
  error : String
  errorDescription : Option String
  deriving DecidableEq

def pollError (response : ErrorResponse) : AuthError :=
  match response.error with
  | "authorization_pending" => .authorizationPending
  | "slow_down" => .authorizationPending
  | "expired_token" => .deviceAuthExpired
  | _ => .oAuth2Error (response.errorDescription.getD response.error)

namespace DeviceAuthFlow

def new (provider : OAuthProvider) : DeviceAuthFlow := ⟨provider⟩

def start (post : String → List (String × String) → Reply)
    (readDevice : String → Except String DeviceAuthResponse) (flow : DeviceAuthFlow) :
    Except AuthError DeviceAuthResponse := do
  let endpoint ← flow.provider.deviceAuthorizationEndpoint
  let config := flow.provider.config
  match post endpoint [("client_id", config.clientId), ("scope", " ".intercalate config.scopes)] with
  | .failed message => .error (.httpError message)
  | .answered status body =>
      if !isSuccess status then .error (.oAuth2Error body)
      else (readDevice body).mapError .httpError

def poll (post : String → List (String × String) → Reply) (readTokens : String → Except String TokenResponse)
    (readError : String → Except String ErrorResponse) (flow : DeviceAuthFlow) (deviceCode : String) (now : Int) :
    Except AuthError TokenSet :=
  let config := flow.provider.config
  requestTokens post readTokens flow.provider.tokenEndpoint
    [("grant_type", "urn:ietf:params:oauth:grant-type:device_code"), ("client_id", config.clientId),
      ("client_secret", config.clientSecret), ("device_code", deviceCode)]
    (fun body =>
      match readError body with
      | .error message => .httpError message
      | .ok response => pollError response)
    now

end DeviceAuthFlow

/-- `generate_vpn_auth_challenge`: an OpenVPN dynamic challenge whose state field is the
standard base64 of the device code. -/
def generateVpnAuthChallenge (response : DeviceAuthResponse) : String :=
  "CRV1:R,E:" ++ Base64.standard.encode (asBytes response.deviceCode) ++ ":Please visit " ++
    response.verificationUri ++ " and enter code: " ++ response.userCode

def challengeDeviceCode (challenge : String) : Option String := do
  let fields ← stripPrefix challenge "CRV1:R,E:"
  let bytes ← Base64.standard.decode ((splitn fields 2 ':').getD 0 "")
  fromUtf8 bytes

/-! ## Known providers and their configurations -/

namespace KnownProvider

theorem providerConfig_agrees (known : KnownProvider) :
    known.providerConfig.issuerUrl = known.issuerUrl ∧ known.providerConfig.clientId = known.clientId ∧
      known.providerConfig.clientSecret = known.clientSecret ∧
      known.providerConfig.providerType.display = known.providerType := by
  cases known with
  | google _ _ allowedDomain => cases allowedDomain <;> exact ⟨rfl, rfl, rfl, rfl⟩
  | microsoft => exact ⟨rfl, rfl, rfl, rfl⟩
  | okta _ _ domain authServerId =>
      cases authServerId with
      | some id => exact ⟨rfl, rfl, rfl, rfl⟩
      | none =>
          -- `unwrap_or("default")` appended, against the literal `/oauth2/default`
          have joined : "/oauth2/" ++ "default" = "/oauth2/default" := by decide
          refine ⟨?_, rfl, rfl, rfl⟩
          show "https://" ++ domain ++ "/oauth2/" ++ "default" = "https://" ++ domain ++ "/oauth2/default"
          rw [String.append_assoc, joined]
  | generic => exact ⟨rfl, rfl, rfl, rfl⟩

end KnownProvider

/-! ## What the authorization URL says -/

namespace AuthFlow

section AuthorizationUrl

variable (sha256 : List UInt8 → Vector UInt8 32) (flow : AuthFlow) (authState : AuthState)

theorem pushParam_zero (url : String) (param : String × String) :
    pushParam url (param, 0) = url ++ param.1 ++ "=" ++ encode param.2 := by
  rw [pushParam, if_neg (Nat.lt_irrefl 0)]

theorem pushParam_succ (url : String) (param : String × String) (index : Nat) :
    pushParam url (param, index + 1) = appendPair url (encodeValue param) := by
  rw [pushParam, if_pos (Nat.succ_pos index)]
  rfl

theorem foldl_pushParam (params : List (String × String)) :
    ∀ (index : Nat) (url : String),
      (params.zipIdx (index + 1)).foldl pushParam url = (params.map encodeValue).foldl appendPair url := by
  induction params with
  | nil => intro index url; rfl
  | cons param params ih =>
      intro index url
      rw [List.zipIdx_cons, List.foldl_cons, ih, pushParam_succ, List.map_cons, List.foldl_cons]

theorem foldl_pushAdditional (params : List (String × String)) (url : String) :
    params.foldl pushAdditional url = (params.map encodeValue).foldl appendPair url := by
  rw [List.foldl_map]
  rfl

theorem foldl_zipIdx_pushParam (start : String) (first : String × String) (rest extra : List (String × String)) :
    extra.foldl pushAdditional ((first :: rest).zipIdx.foldl pushParam start) =
      start ++ renderQuery ((first :: rest ++ extra).map encodeValue) := by
  rw [List.zipIdx_cons, List.foldl_cons, pushParam_zero, foldl_pushParam, foldl_pushAdditional,
    ← List.foldl_append, ← List.map_append, List.cons_append, List.map_cons]
  exact foldl_appendPair start (encodeValue first) _

theorem authorizationUrl_eq {endpoint : String} (configured : flow.provider.config.authorizationEndpoint = some endpoint) :
    flow.authorizationUrl sha256 authState =
      .ok (endpoint ++ "?" ++
        renderQuery ((authorizationParams sha256 flow authState ++ flow.provider.config.additionalParams).map encodeValue)) := by
  have shape : authorizationParams sha256 flow authState =
      ("client_id", flow.provider.config.clientId) :: (authorizationParams sha256 flow authState).tail := rfl
  rw [authorizationUrl, OAuthProvider.authorizationEndpoint, configured, shape]
  exact congrArg Except.ok (foldl_zipIdx_pushParam _ _ _ _)

theorem isPlainName_authorizationParams : ∀ pair ∈ authorizationParams sha256 flow authState, IsPlainName pair.1 := by
  have names : ∀ name ∈ ["client_id", "response_type", "redirect_uri", "state", "nonce", "code_challenge",
      "code_challenge_method", "scope"], IsPlainName name := forall_mem_of_all (by decide)
  intro pair member
  have named : pair.1 ∈ (authorizationParams sha256 flow authState).map Prod.fst := List.mem_map_of_mem member
  exact names pair.1 named

theorem isPlainName_params (plain : ∀ param ∈ flow.provider.config.additionalParams, IsPlainName param.1) :
    ∀ pair ∈ authorizationParams sha256 flow authState ++ flow.provider.config.additionalParams, IsPlainName pair.1 := by
  intro pair member
  rcases List.mem_append.mp member with requested | additional
  · exact isPlainName_authorizationParams sha256 flow authState pair requested
  · exact plain pair additional

theorem authorizationUrl_query {endpoint : String}
    (configured : flow.provider.config.authorizationEndpoint = some endpoint)
    (endpointClean : '?' ∉ endpoint.toList ∧ '#' ∉ endpoint.toList)
    (plain : ∀ param ∈ flow.provider.config.additionalParams, IsPlainName param.1) :
    ∃ url, flow.authorizationUrl sha256 authState = .ok url ∧
      (urlQuery url).bind readQuery = some (authorizationParams sha256 flow authState ++ flow.provider.config.additionalParams) := by
  have allPlain := isPlainName_params sha256 flow authState plain
  have noHash := not_mem_renderQuery _ (by decide) (by decide) (clean_encodeValue (c := '#') (by decide) (by decide) _ allPlain)
  refine ⟨_, authorizationUrl_eq sha256 flow authState configured, ?_⟩
  rw [urlQuery_append _ _ endpointClean noHash, Option.bind_some,
    readQuery_render_encoded _ (by simp [authorizationParams]) allPlain]

/-- The authorization server can check PKCE: the challenge it reads from the URL, with
method `S256`, is met by the verifier `exchange_code` posts. -/
theorem exchangeCode_passes_pkce (code : String) {endpoint : String}
    (configured : flow.provider.config.authorizationEndpoint = some endpoint)
    (endpointClean : '?' ∉ endpoint.toList ∧ '#' ∉ endpoint.toList)
    (plain : ∀ param ∈ flow.provider.config.additionalParams, IsPlainName param.1) :
    ∃ url pairs challenge verifier, flow.authorizationUrl sha256 authState = .ok url ∧
      (urlQuery url).bind readQuery = some pairs ∧ pairs.lookup "code_challenge" = some challenge ∧
      pairs.lookup "code_challenge_method" = some "S256" ∧
      (exchangeCodeParams flow code authState).lookup "code_verifier" = some verifier ∧
      s256Verifies sha256 challenge verifier = true := by
  obtain ⟨url, built, read⟩ := authorizationUrl_query sha256 flow authState configured endpointClean plain
  refine ⟨url, _, authState.codeChallenge sha256, authState.codeVerifier, built, read, ?_, ?_, ?_, ?_⟩
  · -- the challenge is the sixth parameter, before any additional one
    rfl
  · rfl
  · rfl
  · simp [s256Verifies, AuthState.codeChallenge]

theorem exchangeCode_passes_pkce_google :
    ("https://accounts.google.com/o/oauth2/v2/auth" : String).toList.all (fun c => c != '?' && c != '#') = true ∧
      ∃ url pairs challenge verifier,
        (AuthFlow.new (OAuthProvider.new (ProviderConfig.google "client" "secret" (some "example.com")))
          "https://vpn.example.com/callback").authorizationUrl (fun _ => Vector.replicate 32 0)
            (AuthState.new 300 0 "state" "nonce" (Vector.replicate 32 7)) = .ok url ∧
        (urlQuery url).bind readQuery = some pairs ∧ pairs.lookup "code_challenge" = some challenge ∧
        pairs.lookup "code_challenge_method" = some "S256" ∧
        (exchangeCodeParams (AuthFlow.new (OAuthProvider.new (ProviderConfig.google "client" "secret" (some "example.com")))
          "https://vpn.example.com/callback") "code" (AuthState.new 300 0 "state" "nonce" (Vector.replicate 32 7))).lookup
            "code_verifier" = some verifier ∧
        s256Verifies (fun _ => Vector.replicate 32 0) challenge verifier = true :=
  ⟨by decide, exchangeCode_passes_pkce (fun _ => Vector.replicate 32 0)
    (AuthFlow.new (OAuthProvider.new (ProviderConfig.google "client" "secret" (some "example.com")))
      "https://vpn.example.com/callback")
    (AuthState.new 300 0 "state" "nonce" (Vector.replicate 32 7)) "code" rfl ⟨by decide, by decide⟩ (forall_mem_of_all (by decide))⟩

end AuthorizationUrl

end AuthFlow

/-! ## Verifiers, token lifetimes and challenges -/

theorem isCodeVerifier_encode (bytes : Vector UInt8 32) : IsCodeVerifier (Base64.urlSafeNoPad.encode bytes.toList) := by
  have length : (Base64.urlSafeNoPad.encode bytes.toList).length = 43 := by
    rw [Base64.Engine.length_encode, Vector.length_toList]
    rfl
  have symbols : ∀ c ∈ Base64.urlSafeAlphabet.symbols, c ∈ unreservedChars := forall_mem_of_all (by decide)
  refine ⟨by omega, by omega, fun c member => symbols c ?_⟩
  rw [Base64.Engine.encode, String.toList_ofList] at member
  exact Base64.mem_encodeChars Base64.urlSafeAlphabet member

theorem toTokenSet_isExpired_iff (response : TokenResponse) (now : Int) :
    (response.toTokenSet now).isExpired now = true ↔ 2 ^ 63 ≤ (response.expiresIn.getD 3600).toNat := by
  have signed := Wire.toInt_toInt64 (response.expiresIn.getD 3600)
  have bound := (response.expiresIn.getD 3600).toNat_lt
  rw [TokenSet.isExpired, decide_eq_true_iff]
  show now > now + (response.expiresIn.getD 3600).toInt64.toInt ↔ _
  split at signed <;> omega

theorem challengeDeviceCode_generate (response : DeviceAuthResponse) :
    challengeDeviceCode (generateVpnAuthChallenge response) = some response.deviceCode := by
  have colonFree : ':' ∉ (Base64.standard.encode (asBytes response.deviceCode)).toList := fun member => by
    rcases Base64.Engine.mem_encode Base64.standard member with symbol | pad
    · revert symbol
      decide
    · exact absurd pad (by decide)
  have fields : generateVpnAuthChallenge response = "CRV1:R,E:" ++
      (Base64.standard.encode (asBytes response.deviceCode) ++ String.singleton ':' ++
        ("Please visit " ++ response.verificationUri ++ " and enter code: " ++ response.userCode)) := by
    have colon : ":Please visit " = String.singleton ':' ++ "Please visit " := by decide
    rw [generateVpnAuthChallenge, colon]
    simp only [String.append_assoc]
  rw [challengeDeviceCode, fields, stripPrefix_append]
  simp only [Option.bind_eq_bind, Option.bind_some]
  rw [splitn_two_append _ _ colonFree]
  simp [Base64.Engine.decode_encode, fromUtf8_asBytes]

end CoreVpn.Auth.OAuth
