import Mathlib.Data.String.Basic

/-!
# Audit events and their builder

`corevpn-server/src/audit/events.rs`: the event an audit sink receives, the builder
that assembles it, and the predefined builders for the server's common events. An
event here holds the fields the text encoders read. Its data map, tags, error
details, version, service name, duration and correlation ids go only to the JSON
encoders, which hand the whole event to `serde_json`, and are left out; so are the
builder's calls that fill them. The builder's `build` reads the UUID, the clock and
the host name; here they are its inputs, and the instant is of any type.
-/

namespace CoreVpn.Audit

set_option autoImplicit false

inductive AuditSeverity
  | info
  | low
  | medium
  | high
  | critical
  deriving DecidableEq, Repr

namespace AuditSeverity

def toSyslogSeverity : AuditSeverity → UInt8
  | .info => 6
  | .low => 5
  | .medium => 4
  | .high => 3
  | .critical => 2

def toCefSeverity : AuditSeverity → UInt8
  | .info => 1
  | .low => 3
  | .medium => 5
  | .high => 7
  | .critical => 10

end AuditSeverity

inductive AuditCategory
  | authentication
  | authorization
  | connection
  | configuration
  | security
  | administrative
  | certificate
  | network
  | system
  deriving DecidableEq, Repr

def AuditCategory.asStr : AuditCategory → String
  | .authentication => "authentication"
  | .authorization => "authorization"
  | .connection => "connection"
  | .configuration => "configuration"
  | .security => "security"
  | .administrative => "administrative"
  | .certificate => "certificate"
  | .network => "network"
  | .system => "system"

inductive AuditOutcome
  | success
  | failure
  | unknown
  deriving DecidableEq, Repr

def AuditOutcome.debug : AuditOutcome → String
  | .success => "Success"
  | .failure => "Failure"
  | .unknown => "Unknown"

/-- `AuditActor`, the fields the text encoders read. -/
structure AuditActor where
  actorType : String
  name : Option String
  sourceIp : Option String
  sessionId : Option String
  deriving DecidableEq

/-- `AuditTarget`, the fields the text encoders read. -/
structure AuditTarget where
  id : Option String
  name : Option String
  deriving DecidableEq

/-- `AuditEvent`, its timestamp an instant of type `Instant`. -/
structure AuditEvent (Instant : Type) where
  id : String
  timestamp : Instant
  category : AuditCategory
  action : String
  severity : AuditSeverity
  outcome : AuditOutcome
  message : String
  actor : Option AuditActor
  target : Option AuditTarget
  host : String

/-- `AuditEventBuilder`; each field holds what the builder was given so far. -/
structure AuditEventBuilder where
  category : AuditCategory
  givenAction : Option String
  givenSeverity : AuditSeverity
  givenOutcome : AuditOutcome
  givenMessage : Option String
  givenActor : Option AuditActor
  givenTarget : Option AuditTarget

namespace AuditEventBuilder

def new (category : AuditCategory) : AuditEventBuilder where
  category := category
  givenAction := none
  givenSeverity := .info
  givenOutcome := .success
  givenMessage := none
  givenActor := none
  givenTarget := none

def action (builder : AuditEventBuilder) (action : String) : AuditEventBuilder :=
  { builder with givenAction := some action }

def severity (builder : AuditEventBuilder) (severity : AuditSeverity) : AuditEventBuilder :=
  { builder with givenSeverity := severity }

def outcome (builder : AuditEventBuilder) (outcome : AuditOutcome) : AuditEventBuilder :=
  { builder with givenOutcome := outcome }

def success (builder : AuditEventBuilder) : AuditEventBuilder :=
  { builder with givenOutcome := .success }

/-- `failure`: the outcome; the error code and message it also records go to the JSON
encoders only. -/
def failure (builder : AuditEventBuilder) (_code _message : String) : AuditEventBuilder :=
  { builder with givenOutcome := .failure }

def message (builder : AuditEventBuilder) (message : String) : AuditEventBuilder :=
  { builder with givenMessage := some message }

def actor (builder : AuditEventBuilder) (actor : AuditActor) : AuditEventBuilder :=
  { builder with givenActor := some actor }

def actorUser (builder : AuditEventBuilder) (username : String) (sourceIp : Option String) :
    AuditEventBuilder :=
  { builder with givenActor := some ⟨"user", some username, sourceIp, none⟩ }

def actorSystem (builder : AuditEventBuilder) : AuditEventBuilder :=
  { builder with givenActor := some ⟨"system", some "corevpn-server", none, none⟩ }

def target (builder : AuditEventBuilder) (target : AuditTarget) : AuditEventBuilder :=
  { builder with givenTarget := some target }

/-- `target_resource`: the target type goes to the JSON encoders only. -/
def targetResource (builder : AuditEventBuilder) (_targetType id : String) : AuditEventBuilder :=
  { builder with givenTarget := some ⟨some id, none⟩ }

/-- `build`, with the UUID it draws, the time, and what `hostname::get` returned. -/
def build {Instant : Type} (builder : AuditEventBuilder) (id : String) (now : Instant)
    (hostname : Option String) : AuditEvent Instant where
  id := id
  timestamp := now
  category := builder.category
  action := builder.givenAction.getD "unknown"
  severity := builder.givenSeverity
  outcome := builder.givenOutcome
  message := builder.givenMessage.getD ""
  actor := builder.givenActor
  target := builder.givenTarget
  host := hostname.getD "unknown"

/-! ## Predefined events -/

def authAttempt (username : String) (sourceIp : Option String) : AuditEventBuilder :=
  new .authentication
    |>.action "auth.attempt"
    |>.actorUser username sourceIp
    |>.message ("Authentication attempt for user: " ++ username)

def authSuccess (username : String) (sourceIp : Option String) (method : String) :
    AuditEventBuilder :=
  new .authentication
    |>.action "auth.success"
    |>.actorUser username sourceIp
    |>.message ("User " ++ username ++ " authenticated successfully via " ++ method)

def authFailure (username : String) (sourceIp : Option String) (reason : String) :
    AuditEventBuilder :=
  new .authentication
    |>.action "auth.failure"
    |>.severity .medium
    |>.actorUser username sourceIp
    |>.failure "AUTH_FAILED" reason
    |>.message ("Authentication failed for user " ++ username ++ ": " ++ reason)

def vpnConnect (username sourceIp _assignedIp : String) : AuditEventBuilder :=
  new .connection
    |>.action "vpn.connect"
    |>.actorUser username (some sourceIp)
    |>.message ("VPN connection established for " ++ username)

def vpnDisconnect (username sourceIp reason : String) (_durationSecs : UInt64) : AuditEventBuilder :=
  new .connection
    |>.action "vpn.disconnect"
    |>.actorUser username (some sourceIp)
    |>.message ("VPN connection terminated for " ++ username ++ ": " ++ reason)

def configChange (admin setting _oldValue _newValue : String) : AuditEventBuilder :=
  new .configuration
    |>.action "config.change"
    |>.severity .medium
    |>.actorUser admin none
    |>.targetResource "configuration" setting
    |>.message ("Configuration changed: " ++ setting ++ " by " ++ admin)

def securityAlert (alertType description : String) (_sourceIp : Option String) : AuditEventBuilder :=
  new .security
    |>.action ("security." ++ alertType)
    |>.severity .high
    |>.message description

def certIssued (admin clientName _expiresAt : String) : AuditEventBuilder :=
  new .certificate
    |>.action "cert.issued"
    |>.actorUser admin none
    |>.targetResource "certificate" clientName
    |>.message ("Certificate issued for client: " ++ clientName)

def certRevoked (admin clientName _reason : String) : AuditEventBuilder :=
  new .certificate
    |>.action "cert.revoked"
    |>.severity .medium
    |>.actorUser admin none
    |>.targetResource "certificate" clientName
    |>.message ("Certificate revoked for client: " ++ clientName)

end AuditEventBuilder

end CoreVpn.Audit
