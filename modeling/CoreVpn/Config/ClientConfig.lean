import CoreVpn.Lib.ConfigFile
import CoreVpn.Server.Connections

/-!
# Client profiles

`ClientConfig::to_ovpn` (`corevpn-config/src/client.rs`) writes an OpenVPN client
profile. It has fixed directives, the server's protocol, address and cipher, the extra
options, and inline blocks for the CA, the client certificate and its key. Then comes
the tls-crypt key, or else the tls-auth key with its `key-direction`. `ConfigGenerator`
(`generator.rs`) fills such a profile for a user. Its data are the server configuration,
a certificate the CA issues, and the `ta.key` when there is one. The CA's key and
certificate generation enter as the parameter `issue`.

Read as OpenVPN reads a configuration file (`ConfigFile.read`), a profile gives back its
directives and its blocks (`read_toOvpn`). Each credential comes back trimmed, provided
the profile's one-line fields stay on one line and no body line closes its block early.

The generator names the data-channel cipher through `map_cipher`. It lower-cases the
server's `cipher` setting and compares it whole. The server picks its suite with a
case-sensitive substring test for `chacha` (`VpnServer.getCipherSuite`). For an ASCII
setting the two agree exactly when both tests give the same answer (`mapCipher_agrees_iff`). So for a setting
such as `chacha20`, the server runs ChaCha20-Poly1305 and tells its clients AES-256-GCM.
-/

namespace CoreVpn.Config

set_option autoImplicit false

open RustStr ConfigFile

structure ClientConfig where
  name : String
  remoteHost : String
  remotePort : UInt16
  protocol : String
  caCert : String
  clientCert : String
  clientKey : String
  tlsAuthKey : Option String
  tlsCryptKey : Option String
  cipher : String
  auth : String
  keyDirection : Option UInt8
  extraOptions : List String
  deriving DecidableEq

namespace ClientConfig

def headerLines (config : ClientConfig) : List String :=
  ["# CoreVPN Client Configuration", "# Generated automatically - do not edit", "", "client", "dev tun",
    "proto " ++ config.protocol, "remote " ++ config.remoteHost ++ " " ++ toString config.remotePort,
    "resolv-retry infinite", "nobind", "persist-key", "persist-tun", "remote-cert-tls server",
    "cipher " ++ config.cipher, "auth " ++ config.auth, "verb 3", "", "# Security settings", "tls-client",
    "tls-version-min 1.3", ""]

def keyLines (config : ClientConfig) : List String :=
  match config.tlsCryptKey with
  | some key => ["<tls-crypt>", trim key, "</tls-crypt>"]
  | none =>
      match config.tlsAuthKey with
      | some key =>
          (config.keyDirection.map fun direction => "key-direction " ++ toString direction).toList ++
            ["<tls-auth>", trim key, "</tls-auth>"]
      | none => []

/-- `to_ovpn`: the lines joined by line feeds. -/
def toOvpn (config : ClientConfig) : String :=
  (String.singleton '\n').intercalate
    (config.headerLines ++ config.extraOptions ++ [""] ++
      ["<ca>", trim config.caCert, "</ca>", ""] ++
      ["<cert>", trim config.clientCert, "</cert>", ""] ++
      ["<key>", trim config.clientKey, "</key>", ""] ++
      config.keyLines)

def toOvpnMobile (config : ClientConfig) : String :=
  { config with
    extraOptions := config.extraOptions ++
      ["# Mobile optimizations", "connect-retry 2", "connect-retry-max 5", "auth-retry interact"] }.toOvpn

end ClientConfig

/-- `struct ClientConfigBuilder`, with the fields of the configuration it builds. -/
structure ClientConfigBuilder where
  config : ClientConfig

namespace ClientConfigBuilder

/-- `ClientConfigBuilder::new`: port 1194 over UDP, AES-256-GCM with SHA256, key
direction 1. -/
def new (name remoteHost : String) : ClientConfigBuilder :=
  ⟨{ name := name
     remoteHost := remoteHost
     remotePort := 1194
     protocol := "udp"
     caCert := ""
     clientCert := ""
     clientKey := ""
     tlsAuthKey := none
     tlsCryptKey := none
     cipher := "AES-256-GCM"
     auth := "SHA256"
     keyDirection := some 1
     extraOptions := [] }⟩

def port (builder : ClientConfigBuilder) (port : UInt16) : ClientConfigBuilder :=
  ⟨{ builder.config with remotePort := port }⟩

def protocol (builder : ClientConfigBuilder) (proto : String) : ClientConfigBuilder :=
  ⟨{ builder.config with protocol := proto }⟩

def caCert (builder : ClientConfigBuilder) (cert : String) : ClientConfigBuilder :=
  ⟨{ builder.config with caCert := cert }⟩

def clientCert (builder : ClientConfigBuilder) (cert : String) : ClientConfigBuilder :=
  ⟨{ builder.config with clientCert := cert }⟩

def clientKey (builder : ClientConfigBuilder) (key : String) : ClientConfigBuilder :=
  ⟨{ builder.config with clientKey := key }⟩

/-- `tls_auth`: the key and its direction. -/
def tlsAuth (builder : ClientConfigBuilder) (key : String) (direction : UInt8) : ClientConfigBuilder :=
  ⟨{ builder.config with tlsAuthKey := some key, keyDirection := some direction }⟩

/-- `tls_crypt`: the key, and no tls-auth key. -/
def tlsCrypt (builder : ClientConfigBuilder) (key : String) : ClientConfigBuilder :=
  ⟨{ builder.config with tlsCryptKey := some key, tlsAuthKey := none }⟩

def cipher (builder : ClientConfigBuilder) (cipher : String) : ClientConfigBuilder :=
  ⟨{ builder.config with cipher := cipher }⟩

def extraOption (builder : ClientConfigBuilder) (opt : String) : ClientConfigBuilder :=
  ⟨{ builder.config with extraOptions := builder.config.extraOptions ++ [opt] }⟩

def build (builder : ClientConfigBuilder) : ClientConfig := builder.config

end ClientConfigBuilder

/-- `struct Certificate` (`corevpn-crypto/src/cert.rs`). -/
structure Certificate where
  certPem : String
  keyPem : String
  caPem : String
  deriving DecidableEq

def Certificate.toOvpnInline (cert : Certificate) : String :=
  "<ca>\n" ++ trim cert.caPem ++ "</ca>\n\n<cert>\n" ++ trim cert.certPem ++ "</cert>\n\n<key>\n" ++
    trim cert.keyPem ++ "</key>"

structure GeneratedConfig where
  username : String
  ovpnContent : String
  certificate : Certificate
  deriving DecidableEq

/-- `GeneratedConfig::filename`: `@`, `.` and spaces become `_`. -/
def GeneratedConfig.filename (generated : GeneratedConfig) : String :=
  String.ofList (generated.username.toList.map fun c => if c = '@' ∨ c = '.' ∨ c = ' ' then '_' else c) ++ ".ovpn"

/-- `struct ConfigGenerator`; the CA enters as the PEM text of its certificate. -/
structure ConfigGenerator where
  serverConfig : ServerConfig
  caCertPem : String
  taKey : Option String

namespace ConfigGenerator

/-- `ConfigGenerator::new`, with `ca.certificate_pem()`. -/
def new (serverConfig : ServerConfig) (caCertPem : String) (taKey : Option String) : ConfigGenerator :=
  ⟨serverConfig, caCertPem, taKey⟩

/-- `map_cipher`: the OpenVPN name of the configured cipher. -/
def mapCipher (cipher : String) : String :=
  match toLowercase cipher with
  | "chacha20-poly1305" => "CHACHA20-POLY1305"
  | "aes-256-gcm" => "AES-256-GCM"
  | _ => "AES-256-GCM"

def baseBuilder (generator : ConfigGenerator) (username : String) (cert : Certificate) : ClientConfigBuilder :=
  (ClientConfigBuilder.new username generator.serverConfig.server.publicHost)
    |>.port generator.serverConfig.server.listenAddr.port
    |>.protocol generator.serverConfig.server.protocol
    |>.caCert generator.caCertPem
    |>.clientCert cert.certPem
    |>.clientKey cert.keyPem
    |>.cipher (mapCipher generator.serverConfig.security.cipher)

/-- `generate_client_config`, with `issue` the CA's `issue_client_certificate` and its
errors' texts. -/
def generateClientConfig (issue : String → Option String → UInt32 → Except String Certificate)
    (generator : ConfigGenerator) (username : String) (email : Option String) : Except ConfigError GeneratedConfig :=
  match issue username email generator.serverConfig.security.clientCertLifetimeDays with
  | .error message => .error (.validationError message)
  | .ok cert =>
      let builder := generator.baseBuilder username cert
      let builder := match generator.taKey with
        | some taKey => builder.tlsAuth taKey 1
        | none => builder
      let builder := builder.extraOption "compress stub-v2"
      .ok ⟨username, builder.build.toOvpn, cert⟩

/-- `generate_mobile_config`: the certificate of `generate_client_config`, in a profile
with the mobile options. -/
def generateMobileConfig (issue : String → Option String → UInt32 → Except String Certificate)
    (generator : ConfigGenerator) (username : String) (email : Option String) : Except ConfigError GeneratedConfig := do
  let generated ← generator.generateClientConfig issue username email
  let builder := generator.baseBuilder username generated.certificate
    |>.extraOption "connect-retry 2"
    |>.extraOption "connect-retry-max 5"
    |>.extraOption "auth-retry interact"
    |>.extraOption "compress stub-v2"
  let builder := match generator.taKey with
    | some taKey => builder.tlsAuth taKey 1
    | none => builder
  pure { generated with ovpnContent := builder.build.toOvpn }

/-! ## The cipher a profile names -/

def suiteName : Crypto.CipherSuite → String
  | .chaCha20Poly1305 => "CHACHA20-POLY1305"
  | .aes256Gcm => "AES-256-GCM"

theorem mapCipher_eq (cipher : String) :
    mapCipher cipher = if toLowercase cipher = "chacha20-poly1305" then "CHACHA20-POLY1305" else "AES-256-GCM" := by
  unfold mapCipher
  split <;> simp_all

end ConfigGenerator

/-! ## What a client reads from a profile -/

namespace ClientConfig

def directives (config : ClientConfig) : List String :=
  ["client", "dev tun", "proto " ++ config.protocol, "remote " ++ config.remoteHost ++ " " ++ toString config.remotePort,
    "resolv-retry infinite", "nobind", "persist-key", "persist-tun", "remote-cert-tls server",
    "cipher " ++ config.cipher, "auth " ++ config.auth, "verb 3", "tls-client", "tls-version-min 1.3"] ++
    config.extraOptions

def keyItems (config : ClientConfig) : List Item :=
  match config.tlsCryptKey with
  | some key => [.inline "tls-crypt" (trim key)]
  | none =>
      match config.tlsAuthKey with
      | some key =>
          (config.keyDirection.map fun direction => Item.directive ("key-direction " ++ toString direction)).toList ++
            [.inline "tls-auth" (trim key)]
      | none => []

def items (config : ClientConfig) : List Item :=
  config.directives.map .directive ++
    [.inline "ca" (trim config.caCert), .inline "cert" (trim config.clientCert), .inline "key" (trim config.clientKey)] ++
    config.keyItems

/-- A profile reads back when its one-line fields stay on one line, its extra options are
directives and no line of a credential closes the credential's block. -/
structure Readable (config : ClientConfig) : Prop where
  protocol : '\n' ∉ config.protocol.toList
  remoteHost : '\n' ∉ config.remoteHost.toList
  cipher : '\n' ∉ config.cipher.toList
  auth : '\n' ∉ config.auth.toList
  extraOptions : ∀ option ∈ config.extraOptions, IsDirective option
  caCert : Unbroken "ca" (trim config.caCert)
  clientCert : Unbroken "cert" (trim config.clientCert)
  clientKey : Unbroken "key" (trim config.clientKey)
  tlsCryptKey : ∀ key ∈ config.tlsCryptKey, Unbroken "tls-crypt" (trim key)
  tlsAuthKey : ∀ key ∈ config.tlsAuthKey, Unbroken "tls-auth" (trim key)

section Readable

variable {config : ClientConfig} (readable : config.Readable)
include readable

theorem Readable.proto : IsDirective ("proto " ++ config.protocol) :=
  (⟨by decide, by decide, by decide⟩ : IsDirective "proto ").append readable.protocol

theorem Readable.remote : IsDirective ("remote " ++ config.remoteHost ++ " " ++ toString config.remotePort) := by
  exact (((⟨by decide, by decide, by decide⟩ : IsDirective "remote ").append readable.remoteHost).append
    (by decide)).append (not_mem_toString config.remotePort.toNat rfl)

theorem Readable.cipherLine : IsDirective ("cipher " ++ config.cipher) :=
  (⟨by decide, by decide, by decide⟩ : IsDirective "cipher ").append readable.cipher

theorem Readable.authLine : IsDirective ("auth " ++ config.auth) :=
  (⟨by decide, by decide, by decide⟩ : IsDirective "auth ").append readable.auth

theorem headerLines_plain : ∀ line ∈ config.headerLines, '\n' ∉ line.toList ∧ openTag? line = none := by
  simp only [headerLines, List.forall_mem_cons, List.not_mem_nil, IsEmpty.forall_iff, implies_true, and_true]
  refine ⟨?_, ?_, ?_, ?_, ?_, ⟨readable.proto.single, readable.proto.noTag⟩,
    ⟨readable.remote.single, readable.remote.noTag⟩, ?_, ?_, ?_, ?_, ?_,
    ⟨readable.cipherLine.single, readable.cipherLine.noTag⟩, ⟨readable.authLine.single, readable.authLine.noTag⟩,
    ?_, ?_, ?_, ?_, ?_, ?_⟩ <;> decide

theorem headerLines_filter :
    config.headerLines.filter (fun line => !isSkipped line) ++ config.extraOptions = config.directives := by
  simp +decide only [headerLines, directives, List.filter_cons, List.filter_nil, readable.proto.kept,
    readable.remote.kept, readable.cipherLine.kept, readable.authLine.kept, ↓reduceIte, List.cons_append,
    List.nil_append]

theorem split_toOvpn :
    split config.toOvpn '\n' =
      config.headerLines ++ (config.extraOptions ++ "" :: "<ca>" :: (split (trim config.caCert) '\n' ++
        closeLine "ca" :: "" :: "<cert>" :: (split (trim config.clientCert) '\n' ++
        closeLine "cert" :: "" :: "<key>" :: (split (trim config.clientKey) '\n' ++
        closeLine "key" :: "" :: config.keyLines.flatMap (split · '\n'))))) := by
  have closing : closeLine "ca" = "</ca>" ∧ closeLine "cert" = "</cert>" ∧ closeLine "key" = "</key>" := by
    decide
  rw [toOvpn, split_intercalate_flatMap _ _ (by simp)]
  simp only [List.flatMap_append, List.flatMap_cons, List.append_assoc,
    flatMap_split_of_not_mem _ fun line member => (headerLines_plain readable line member).1,
    flatMap_split_of_not_mem _ fun option member => (readable.extraOptions option member).single,
    @split_of_not_mem "" '\n' (by decide), @split_of_not_mem "<ca>" '\n' (by decide), @split_of_not_mem "</ca>" '\n' (by decide),
    @split_of_not_mem "<cert>" '\n' (by decide), @split_of_not_mem "</cert>" '\n' (by decide),
    @split_of_not_mem "<key>" '\n' (by decide), @split_of_not_mem "</key>" '\n' (by decide), closing,
    List.cons_append, List.nil_append]

theorem readLines_keyLines : readLines none (config.keyLines.flatMap (split · '\n')) = some config.keyItems := by
  unfold keyLines keyItems
  cases crypt : config.tlsCryptKey with
  | some key =>
      have closing : closeLine "tls-crypt" = "</tls-crypt>" := by decide
      dsimp only
      rw [← closing, ← List.append_nil (List.flatMap _ _),
        readLines_written_block (by decide) (by decide) (by decide) _ _ (readable.tlsCryptKey key crypt),
        readLines_none_nil, Option.map_some]
  | none =>
      cases auth : config.tlsAuthKey with
      | none => rfl
      | some key =>
          have closing : closeLine "tls-auth" = "</tls-auth>" := by decide
          have block : ∀ rest, readLines none (["<tls-auth>", trim key, "</tls-auth>"].flatMap (split · '\n') ++ rest) =
              (readLines none rest).map (.inline "tls-auth" (trim key) :: ·) := by
            intro rest
            rw [← closing]
            exact readLines_written_block (by decide) (by decide) (by decide) _ _ (readable.tlsAuthKey key auth)
          dsimp only
          cases config.keyDirection with
          | none =>
              rw [Option.map_none, Option.toList_none, List.nil_append, ← List.append_nil (List.flatMap _ _), block,
                readLines_none_nil, Option.map_some]
              rfl
          | some direction =>
              have line : IsDirective ("key-direction " ++ toString direction) :=
                (⟨by decide, by decide, by decide⟩ : IsDirective "key-direction ").append
                  (not_mem_toString direction.toNat rfl)
              rw [Option.map_some, Option.toList_some, List.singleton_append, List.flatMap_cons,
                split_of_not_mem _ line.single, List.singleton_append, readLines_plain _ line.noTag,
                if_neg (by simp [line.kept]), ← List.append_nil (List.flatMap _ _), block, readLines_none_nil]
              rfl

theorem read_toOvpn : read config.toOvpn = some config.items := by
  have blank : ∀ rest, readLines none ("" :: rest) = readLines none rest :=
    fun rest => readLines_skipped rest (by decide) (by decide)
  rw [ConfigFile.read, split_toOvpn readable,
    readLines_outside _ _ fun line member => (headerLines_plain readable line member).2,
    readLines_directives _ _ readable.extraOptions, blank,
    @readLines_text_block "<ca>" "ca" (by decide) _ _ readable.caCert, blank,
    @readLines_text_block "<cert>" "cert" (by decide) _ _ readable.clientCert, blank,
    @readLines_text_block "<key>" "key" (by decide) _ _ readable.clientKey, blank, readLines_keyLines readable]
  simp only [Option.map_some, items, ← headerLines_filter readable, List.map_append, List.append_assoc,
    List.cons_append, List.nil_append]

end Readable

end ClientConfig

/-! ## The profile a user is given -/

namespace ConfigGenerator

theorem mapCipher_single (cipher : String) : '\n' ∉ (mapCipher cipher).toList := by
  rw [mapCipher_eq]
  split <;> decide

theorem generateClientConfig_ok (issue : String → Option String → UInt32 → Except String Certificate)
    (generator : ConfigGenerator) (username : String) (email : Option String) {cert : Certificate}
    (issued : issue username email generator.serverConfig.security.clientCertLifetimeDays = .ok cert) :
    generator.generateClientConfig issue username email =
      .ok ⟨username, ClientConfig.toOvpn
        { name := username, remoteHost := generator.serverConfig.server.publicHost,
          remotePort := generator.serverConfig.server.listenAddr.port, protocol := generator.serverConfig.server.protocol,
          caCert := generator.caCertPem, clientCert := cert.certPem, clientKey := cert.keyPem,
          tlsAuthKey := generator.taKey, tlsCryptKey := none, cipher := mapCipher generator.serverConfig.security.cipher,
          auth := "SHA256", keyDirection := some 1, extraOptions := ["compress stub-v2"] }, cert⟩ := by
  unfold generateClientConfig
  rw [issued]
  cases generator.taKey <;> rfl

/-- An OpenVPN client reads the profile a user is given as the server's protocol, address
and port, the cipher `map_cipher` names, SHA256 and `compress stub-v2`, then the CA, the
issued certificate and its key, and the `ta.key` with direction 1 when there is one. -/
theorem generateClientConfig_profile (issue : String → Option String → UInt32 → Except String Certificate)
    (generator : ConfigGenerator) (username : String) (email : Option String) {cert : Certificate}
    (issued : issue username email generator.serverConfig.security.clientCertLifetimeDays = .ok cert)
    (protocol : '\n' ∉ generator.serverConfig.server.protocol.toList)
    (publicHost : '\n' ∉ generator.serverConfig.server.publicHost.toList)
    (caCert : Unbroken "ca" (trim generator.caCertPem)) (certPem : Unbroken "cert" (trim cert.certPem))
    (keyPem : Unbroken "key" (trim cert.keyPem)) (taKey : ∀ key ∈ generator.taKey, Unbroken "tls-auth" (trim key)) :
    ∃ content, generator.generateClientConfig issue username email = .ok ⟨username, content, cert⟩ ∧
      read content = some
        (["client", "dev tun", "proto " ++ generator.serverConfig.server.protocol,
            "remote " ++ generator.serverConfig.server.publicHost ++ " " ++
              toString generator.serverConfig.server.listenAddr.port,
            "resolv-retry infinite", "nobind", "persist-key", "persist-tun", "remote-cert-tls server",
            "cipher " ++ mapCipher generator.serverConfig.security.cipher, "auth SHA256", "verb 3", "tls-client",
            "tls-version-min 1.3", "compress stub-v2"].map .directive ++
          [.inline "ca" (trim generator.caCertPem), .inline "cert" (trim cert.certPem),
            .inline "key" (trim cert.keyPem)] ++
          (generator.taKey.map fun key => [.directive "key-direction 1", .inline "tls-auth" (trim key)]).getD []) := by
  refine ⟨_, generateClientConfig_ok issue generator username email issued, ?_⟩
  have readable : ClientConfig.Readable
      { name := username, remoteHost := generator.serverConfig.server.publicHost,
        remotePort := generator.serverConfig.server.listenAddr.port, protocol := generator.serverConfig.server.protocol,
        caCert := generator.caCertPem, clientCert := cert.certPem, clientKey := cert.keyPem,
        tlsAuthKey := generator.taKey, tlsCryptKey := none, cipher := mapCipher generator.serverConfig.security.cipher,
        auth := "SHA256", keyDirection := some 1, extraOptions := ["compress stub-v2"] } :=
    ⟨protocol, publicHost, mapCipher_single _, show '\n' ∉ "SHA256".toList by decide, List.forall_mem_singleton.mpr ⟨by decide, by decide, by decide⟩,
      caCert, certPem, keyPem, nofun, taKey⟩
  have auth : "auth " ++ "SHA256" = "auth SHA256" := by decide
  have direction : "key-direction " ++ toString (1 : UInt8) = "key-direction 1" := by decide
  rw [ClientConfig.read_toOvpn readable]
  cases generator.taKey <;>
    simp only [ClientConfig.items, ClientConfig.directives, ClientConfig.keyItems, auth, direction,
      Option.map_none, Option.map_some, Option.toList_some, Option.getD_none, Option.getD_some, List.map_cons, List.map_nil, List.cons_append, List.nil_append, List.append_nil]

/-- The default server's profile for `alice`, with a `ta.key`. -/
theorem generateClientConfig_profile_default :
    let generator := ConfigGenerator.new (ServerConfig.defaultConfig "vpn.example.com") "CA" (some "TA")
    let cert : Certificate := ⟨"CERT", "KEY", "CA"⟩
    ∃ content, generator.generateClientConfig (fun _ _ _ => .ok cert) "alice" none = .ok ⟨"alice", content, cert⟩ ∧
      read content = some
        (["client", "dev tun", "proto udp", "remote vpn.example.com 1194", "resolv-retry infinite", "nobind",
            "persist-key", "persist-tun", "remote-cert-tls server", "cipher CHACHA20-POLY1305", "auth SHA256",
            "verb 3", "tls-client", "tls-version-min 1.3", "compress stub-v2"].map .directive ++
          [.inline "ca" "CA", .inline "cert" "CERT", .inline "key" "KEY", .directive "key-direction 1",
            .inline "tls-auth" "TA"]) := by
  intro generator cert
  obtain ⟨content, generated, reads⟩ := generateClientConfig_profile (fun _ _ _ => .ok cert) generator "alice" none
    rfl (by decide) (by decide) (forall_mem_of_all (by decide)) (forall_mem_of_all (by decide))
    (forall_mem_of_all (by decide)) (fun key member => by cases member; exact forall_mem_of_all (by decide))
  exact ⟨content, generated, reads.trans (by decide)⟩

end ConfigGenerator

end CoreVpn.Config
