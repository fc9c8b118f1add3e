import CoreVpn.Audit.Events
import CoreVpn.Lib.Escape

/-!
# The text formats of audit records

`corevpn-server/src/audit/formats.rs`: `FormatEncoder::encode` and its three text
formats, CEF, LEEF and RFC 5424 syslog, with their escapers. The JSON formats hand
the event to `serde_json` and enter as parameters (`Serde`), and so does what
`chrono` renders of a timestamp (`Chrono`). The three text encoders cannot fail; the
`Ok` they return is written where `encode` dispatches to them.

Each escaper is a chain of `str::replace` calls, and each chain is a backslash
escaping scheme (`escapeCefChars_eq_encode` and its two siblings), so what it writes
decodes back to the original text. `escape_cef` and `escape_leef` write no CR or LF;
`escape_syslog_sd` keeps them. Which texts of an event can put a line break into a
record is exact for each format: the event id and the actor's source IP in CEF, the
source IP in LEEF (`singleLine_encodeCef_iff`, `singleLine_encodeLeef_iff`), and in
syslog the host, the action, the message, the id and the actor's type, name and
source IP (`singleLine_encodeSyslog_iff`).
-/

namespace CoreVpn.Audit

set_option autoImplicit false

open Escape

inductive AuditFormat
  | json
  | jsonLines
  | cef
  | leef
  | syslog
  | cloudWatch
  | azureMonitor
  | ocsf
  deriving DecidableEq, Repr

def AuditFormat.isText : AuditFormat → Bool
  | .cef | .leef | .syslog => true
  | _ => false

/-- `FormatConfig`; `include_nulls` is read by no encoder. -/
structure FormatConfig where
  format : AuditFormat
  pretty : Bool
  cefVendor : String
  cefProduct : String
  cefVersion : String
  syslogFacility : UInt8
  syslogAppName : String

def FormatConfig.default : FormatConfig where
  format := .json
  pretty := false
  cefVendor := "PegasusHeavy"
  cefProduct := "CoreVPN"
  cefVersion := "1.0"
  syslogFacility := 4
  syslogAppName := "corevpn"

/-- The `AuditError` an encoder returns: `serde_json` failed. -/
inductive AuditError
  | serialization (detail : String)

/-- A text of the RFC 3339 alphabet: digits and `-:T.Z`. -/
def Rfc3339Text (text : String) : Prop :=
  ∀ c ∈ text.toList, c.isDigit ∨ c ∈ ['-', ':', 'T', '.', 'Z']

/-- What `chrono` computes of an instant: `timestamp_millis`, and `to_rfc3339_opts`
in UTC at millisecond and microsecond precision. -/
structure Chrono (Instant : Type) where
  timestampMillis : Instant → Int
  rfc3339Millis : Instant → String
  rfc3339Micros : Instant → String
  millis_text : ∀ instant, Rfc3339Text (rfc3339Millis instant)
  micros_text : ∀ instant, Rfc3339Text (rfc3339Micros instant)

/-- The encoders that hand the event to `serde_json`: `to_string`, `to_string_pretty`,
and the CloudWatch, Azure Monitor and OCSF shapes. -/
structure Serde (Instant : Type) where
  toString : AuditEvent Instant → Except AuditError String
  toStringPretty : AuditEvent Instant → Except AuditError String
  cloudWatch : AuditEvent Instant → Except AuditError String
  azureMonitor : AuditEvent Instant → Except AuditError String
  ocsf : AuditEvent Instant → Except AuditError String

/-! ## Escapers -/

/-- `escape_cef` on the characters of a text. -/
def escapeCefChars (text : List Char) : List Char :=
  text
    |> substitute '\\' ['\\', '\\']
    |> substitute '|' ['\\', '|']
    |> substitute '\n' ['\\', 'n']
    |> substitute '\r' ['\\', 'r']
    |> substitute '=' ['\\', '=']

def escapeCef (s : String) : String := String.ofList (escapeCefChars s.toList)

/-- `escape_leef` on the characters of a text. -/
def escapeLeefChars (text : List Char) : List Char :=
  text
    |> substitute '\\' ['\\', '\\']
    |> substitute '|' ['\\', '|']
    |> substitute '\t' ['\\', 't']
    |> substitute '\n' ['\\', 'n']
    |> substitute '\r' ['\\', 'r']

def escapeLeef (s : String) : String := String.ofList (escapeLeefChars s.toList)

/-- `escape_syslog_sd` on the characters of a text. -/
def escapeSyslogSdChars (text : List Char) : List Char :=
  text
    |> substitute '\\' ['\\', '\\']
    |> substitute '"' ['\\', '"']
    |> substitute ']' ['\\', ']']

def escapeSyslogSd (s : String) : String := String.ofList (escapeSyslogSdChars s.toList)

def cefScheme : Scheme Char where
  escape := '\\'
  table := [('\\', '\\'), ('|', '|'), ('\n', 'n'), ('\r', 'r'), ('=', '=')]
  escape_escaped := by decide
  codes_nodup := by decide

def leefScheme : Scheme Char where
  escape := '\\'
  table := [('\\', '\\'), ('|', '|'), ('\t', 't'), ('\n', 'n'), ('\r', 'r')]
  escape_escaped := by decide
  codes_nodup := by decide

def syslogSdScheme : Scheme Char where
  escape := '\\'
  table := [('\\', '\\'), ('"', '"'), (']', ']')]
  escape_escaped := by decide
  codes_nodup := by decide

theorem escapeCefChars_eq_encode : escapeCefChars = cefScheme.encode :=
  cefScheme.replaceEach_eq_encode (by decide)

theorem escapeLeefChars_eq_encode : escapeLeefChars = leefScheme.encode :=
  leefScheme.replaceEach_eq_encode (by decide)

theorem escapeSyslogSdChars_eq_encode : escapeSyslogSdChars = syslogSdScheme.encode :=
  syslogSdScheme.replaceEach_eq_encode (by decide)

theorem decode_escape (s : String) :
    cefScheme.decode (escapeCef s).toList = some s.toList ∧
      leefScheme.decode (escapeLeef s).toList = some s.toList ∧
      syslogSdScheme.decode (escapeSyslogSd s).toList = some s.toList := by
  simp only [escapeCef, escapeLeef, escapeSyslogSd, String.toList_ofList, escapeCefChars_eq_encode,
    escapeLeefChars_eq_encode, escapeSyslogSdChars_eq_encode, Scheme.decode_encode, and_self]

/-! ## Line breaks -/

/-- CR or LF. -/
def isLineBreak (c : Char) : Bool := c == '\n' || c == '\r'

/-- A text that holds no CR and no LF: it stays one line of a newline-framed stream. -/
def SingleLine (text : String) : Prop := ∀ c ∈ text.toList, isLineBreak c = false

instance (text : String) : Decidable (SingleLine text) :=
  decidable_of_iff (text.toList.all fun c => !isLineBreak c) (by simp [SingleLine])

theorem singleLine_iff_not_mem (text : String) :
    SingleLine text ↔ '\n' ∉ text.toList ∧ '\r' ∉ text.toList := by
  constructor
  · intro single
    exact ⟨fun member => absurd (single _ member) (by decide),
      fun member => absurd (single _ member) (by decide)⟩
  · rintro ⟨noNewline, noReturn⟩ c member
    cases broken : isLineBreak c
    · rfl
    · simp only [isLineBreak, Bool.or_eq_true, beq_iff_eq] at broken
      rcases broken with rfl | rfl
      · exact absurd member noNewline
      · exact absurd member noReturn

@[simp] theorem singleLine_append (front back : String) :
    SingleLine (front ++ back) ↔ SingleLine front ∧ SingleLine back := by
  simp only [SingleLine, String.toList_append, List.mem_append, or_imp, forall_and]

theorem singleLine_intercalate {separator : String} (plain : SingleLine separator) :
    ∀ texts : List String, SingleLine (separator.intercalate texts) ↔ ∀ text ∈ texts, SingleLine text
  | [] => by simp [SingleLine]
  | [text] => by simp
  | text :: next :: rest => by
      simp only [String.intercalate_cons_cons, singleLine_append, plain, and_true,
        singleLine_intercalate plain (next :: rest), List.forall_mem_cons]

theorem isLineBreak_of_isDigit {c : Char} (digit : c.isDigit = true) : isLineBreak c = false := by
  cases broken : isLineBreak c
  · rfl
  · simp only [isLineBreak, Bool.or_eq_true, beq_iff_eq] at broken
    rcases broken with rfl | rfl <;> exact absurd digit (by decide)

theorem Rfc3339Text.singleLine {text : String} (alphabet : Rfc3339Text text) : SingleLine text := by
  intro c member
  rcases alphabet c member with digit | punctuation
  · exact isLineBreak_of_isDigit digit
  · simp only [List.mem_cons, List.not_mem_nil, or_false] at punctuation
    rcases punctuation with rfl | rfl | rfl | rfl | rfl <;> rfl

theorem singleLine_toString_nat (n : Nat) : SingleLine (toString n) := by
  intro c member
  rw [Nat.toString_eq_repr, Nat.toList_repr] at member
  exact isLineBreak_of_isDigit (Nat.isDigit_of_mem_toDigits (by decide) (by decide) member)

theorem singleLine_toString_int (i : Int) : SingleLine (toString i) := by
  rw [Int.toString_eq_repr, Int.repr_eq_if]
  split
  · exact singleLine_toString_nat _
  · exact (singleLine_append _ _).mpr ⟨by decide, singleLine_toString_nat _⟩

theorem singleLine_toString_uint8 (n : UInt8) : SingleLine (toString n) :=
  singleLine_toString_nat n.toNat

theorem singleLine_asStr (category : AuditCategory) : SingleLine category.asStr := by
  cases category <;> decide

theorem singleLine_debug (outcome : AuditOutcome) : SingleLine outcome.debug := by
  cases outcome <;> decide

theorem singleLine_escapeCef (s : String) : SingleLine (escapeCef s) := by
  rw [singleLine_iff_not_mem, escapeCef, String.toList_ofList, escapeCefChars_eq_encode]
  exact ⟨cefScheme.not_mem_encode '\n' (by decide) (by decide) (by decide) _,
    cefScheme.not_mem_encode '\r' (by decide) (by decide) (by decide) _⟩

theorem singleLine_escapeLeef (s : String) : SingleLine (escapeLeef s) := by
  rw [singleLine_iff_not_mem, escapeLeef, String.toList_ofList, escapeLeefChars_eq_encode]
  exact ⟨leefScheme.not_mem_encode '\n' (by decide) (by decide) (by decide) _,
    leefScheme.not_mem_encode '\r' (by decide) (by decide) (by decide) _⟩

theorem singleLine_escapeSyslogSd_iff (s : String) : SingleLine (escapeSyslogSd s) ↔ SingleLine s := by
  rw [singleLine_iff_not_mem, singleLine_iff_not_mem, escapeSyslogSd, String.toList_ofList,
    escapeSyslogSdChars_eq_encode, syslogSdScheme.mem_encode_iff_of_plain '\n' (by decide) (by decide),
    syslogSdScheme.mem_encode_iff_of_plain '\r' (by decide) (by decide)]

theorem forall_mem_toList_map {β : Type} (value : Option β) (render : β → String) :
    (∀ text ∈ (value.map render).toList, SingleLine text) ↔ ∀ x ∈ value, SingleLine (render x) := by
  cases value <;> simp

/-! ## Encoders -/

structure FormatEncoder where
  config : FormatConfig

namespace FormatEncoder

variable {Instant : Type}

def new (config : FormatConfig) : FormatEncoder := ⟨config⟩

def encodeJson (encoder : FormatEncoder) (serde : Serde Instant) (event : AuditEvent Instant) :
    Except AuditError String :=
  if encoder.config.pretty then serde.toStringPretty event else serde.toString event

def encodeJsonLines (serde : Serde Instant) (event : AuditEvent Instant) : Except AuditError String := do
  let json ← serde.toString event
  pure (json ++ "\n")

/-- `encode_cef`: `CEF:Version|Vendor|Product|Version|Signature ID|Name|Severity|Extension`,
the extension's fields joined by spaces. -/
def encodeCef (encoder : FormatEncoder) (chrono : Chrono Instant) (event : AuditEvent Instant) : String :=
  let severity := event.severity.toCefSeverity
  let signatureId := event.category.asStr ++ "." ++ event.action
  let extensions :=
    ["rt=" ++ toString (chrono.timestampMillis event.timestamp),
      "msg=" ++ escapeCef event.message,
      "outcome=" ++ event.outcome.debug,
      "cat=" ++ event.category.asStr] ++
    (match event.actor with
      | some actor =>
          (actor.name.map fun name => "suser=" ++ escapeCef name).toList ++
            (actor.sourceIp.map fun ip => "src=" ++ ip).toList ++
            (actor.sessionId.map fun session => "sproc=" ++ escapeCef session).toList
      | none => []) ++
    (match event.target with
      | some target =>
          (target.id.map fun id => "duid=" ++ escapeCef id).toList ++
            (target.name.map fun name => "duser=" ++ escapeCef name).toList
      | none => []) ++
    ["dvchost=" ++ escapeCef event.host, "externalId=" ++ event.id]
  "CEF:0|" ++ escapeCef encoder.config.cefVendor ++ "|" ++ escapeCef encoder.config.cefProduct ++ "|" ++
    escapeCef encoder.config.cefVersion ++ "|" ++ escapeCef signatureId ++ "|" ++
    escapeCef event.action ++ "|" ++ toString severity ++ "|" ++ " ".intercalate extensions

/-- `encode_leef`: `LEEF:Version|Vendor|Product|Version|EventID|Extension`, the
extension's fields joined by tabs. -/
def encodeLeef (encoder : FormatEncoder) (chrono : Chrono Instant) (event : AuditEvent Instant) : String :=
  let eventId := event.category.asStr ++ "." ++ event.action
  let extensions :=
    ["devTime=" ++ chrono.rfc3339Millis event.timestamp,
      "cat=" ++ event.category.asStr,
      "sev=" ++ toString event.severity.toCefSeverity,
      "msg=" ++ escapeLeef event.message] ++
    (match event.actor with
      | some actor =>
          (actor.name.map fun name => "usrName=" ++ escapeLeef name).toList ++
            (actor.sourceIp.map fun ip => "src=" ++ ip).toList
      | none => []) ++
    ["identHostName=" ++ escapeLeef event.host]
  "LEEF:2.0|" ++ escapeLeef encoder.config.cefVendor ++ "|" ++ escapeLeef encoder.config.cefProduct ++ "|" ++
    escapeLeef encoder.config.cefVersion ++ "|" ++ escapeLeef eventId ++ "|" ++ "\t".intercalate extensions

/-- `encode_syslog`: an RFC 5424 line with two structured-data elements. -/
def encodeSyslog (encoder : FormatEncoder) (chrono : Chrono Instant) (event : AuditEvent Instant) :
    String :=
  let facility := encoder.config.syslogFacility
  let severity := event.severity.toSyslogSeverity
  -- `u8` arithmetic: past facility 31 it overflows, and wraps in a release build
  let priority := facility * 8 + severity
  let timestamp := chrono.rfc3339Micros event.timestamp
  let msgId := event.category.asStr ++ "." ++ event.action
  let sd :=
    "[corevpn@32473 eventId=\"" ++ event.id ++ "\" outcome=\"" ++ event.outcome.debug ++
      "\" category=\"" ++ event.category.asStr ++ "\"]" ++
    (match event.actor with
      | some actor =>
          "[actor@32473 type=\"" ++ actor.actorType ++ "\"" ++
            (actor.name.map fun name => " name=\"" ++ escapeSyslogSd name ++ "\"").getD "" ++
            (actor.sourceIp.map fun ip => " sourceIp=\"" ++ ip ++ "\"").getD "" ++ "]"
      | none => "")
  "<" ++ toString priority ++ ">1 " ++ timestamp ++ " " ++ event.host ++ " " ++
    encoder.config.syslogAppName ++ " - " ++ msgId ++ " " ++ sd ++ " " ++ event.message

def encode (encoder : FormatEncoder) (serde : Serde Instant) (chrono : Chrono Instant)
    (event : AuditEvent Instant) : Except AuditError String :=
  match encoder.config.format with
  | .json => encoder.encodeJson serde event
  | .jsonLines => encodeJsonLines serde event
  | .cef => .ok (encoder.encodeCef chrono event)
  | .leef => .ok (encoder.encodeLeef chrono event)
  | .syslog => .ok (encoder.encodeSyslog chrono event)
  | .cloudWatch => serde.cloudWatch event
  | .azureMonitor => serde.azureMonitor event
  | .ocsf => serde.ocsf event

theorem encodeSyslog_ends_with_message (encoder : FormatEncoder) (chrono : Chrono Instant)
    (event : AuditEvent Instant) : ∃ header, encoder.encodeSyslog chrono event = header ++ event.message :=
  ⟨_, rfl⟩

def encodeText (encoder : FormatEncoder) (chrono : Chrono Instant) (event : AuditEvent Instant) : String :=
  match encoder.config.format with
  | .cef => encoder.encodeCef chrono event
  | .leef => encoder.encodeLeef chrono event
  | _ => encoder.encodeSyslog chrono event

theorem encode_of_isText (encoder : FormatEncoder) (text : encoder.config.format.isText = true)
    (serde : Serde Instant) (chrono : Chrono Instant) (event : AuditEvent Instant) :
    encoder.encode serde chrono event = .ok (encoder.encodeText chrono event) := by
  cases format : encoder.config.format <;>
    simp only [encode, encodeText, format] <;>
    simp [format, AuditFormat.isText] at text

theorem encodeText_head (encoder : FormatEncoder) (chrono : Chrono Instant) (event : AuditEvent Instant) :
    ∃ c ∈ ['C', 'L', '<'], (encoder.encodeText chrono event).toList.head? = some c := by
  -- the literal's head is rewritten by `rw`: as a simp lemma it is tried against every piece
  unfold encodeText
  split
  · have first : "CEF:0|".toList.head? = some 'C' := by decide
    refine ⟨'C', by decide, ?_⟩
    unfold encodeCef
    simp only [String.toList_append, List.head?_append]
    rw [first]
    simp only [Option.some_or]
  · have first : "LEEF:2.0|".toList.head? = some 'L' := by decide
    refine ⟨'L', by decide, ?_⟩
    unfold encodeLeef
    simp only [String.toList_append, List.head?_append]
    rw [first]
    simp only [Option.some_or]
  · have first : "<".toList.head? = some '<' := by decide
    refine ⟨'<', by decide, ?_⟩
    unfold encodeSyslog
    simp only [String.toList_append, List.head?_append]
    rw [first]
    simp only [Option.some_or]

/-! ## Line breaks in records -/

theorem singleLine_eq_true {text : String} (single : SingleLine text) : SingleLine text = True :=
  eq_true single

theorem singleLine_getD_map {β : Type} (value : Option β) (render : β → String) :
    SingleLine ((value.map render).getD "") ↔ ∀ x ∈ value, SingleLine (render x) := by
  cases value
  · simp only [Option.map_none, Option.getD_none, Option.mem_def, reduceCtorEq, false_imp_iff,
      implies_true, iff_true]
    decide
  · simp

section Records

variable (encoder : FormatEncoder) (chrono : Chrono Instant) (event : AuditEvent Instant)

/- Each proof below cuts the record into its pieces. The escaped pieces, the constants
and the numbers are one line by the lemmas above, and the literals by evaluation;
what is left are the texts the encoder writes as they are. -/

theorem singleLine_encodeCef_iff :
    SingleLine (encoder.encodeCef chrono event) ↔
      (∀ ip ∈ event.actor.bind AuditActor.sourceIp, SingleLine ip) ∧ SingleLine event.id := by
  have space : SingleLine " " := by decide
  obtain ⟨id, timestamp, category, action, severity, outcome, message, actor, target, host⟩ := event
  cases actor <;> cases target <;> unfold encodeCef <;> dsimp only <;>
    simp only [singleLine_append, singleLine_intercalate space, List.forall_mem_cons,
      List.forall_mem_append, singleLine_escapeCef, singleLine_asStr, singleLine_debug,
      singleLine_toString_int, singleLine_toString_uint8, forall_mem_toList_map] <;>
    simp (disch := decide) only [singleLine_eq_true] <;>
    simp

theorem singleLine_encodeLeef_iff :
    SingleLine (encoder.encodeLeef chrono event) ↔
      ∀ ip ∈ event.actor.bind AuditActor.sourceIp, SingleLine ip := by
  have tab : SingleLine "\t" := by decide
  have time := (chrono.millis_text event.timestamp).singleLine
  obtain ⟨id, timestamp, category, action, severity, outcome, message, actor, target, host⟩ := event
  cases actor <;> unfold encodeLeef <;> dsimp only at time ⊢ <;>
    simp only [singleLine_append, singleLine_intercalate tab, List.forall_mem_cons,
      List.forall_mem_append, singleLine_escapeLeef, singleLine_asStr, singleLine_toString_uint8, time,
      forall_mem_toList_map] <;>
    simp (disch := decide) only [singleLine_eq_true] <;>
    simp

theorem singleLine_encodeSyslog_iff :
    SingleLine (encoder.encodeSyslog chrono event) ↔
      SingleLine event.host ∧ SingleLine encoder.config.syslogAppName ∧ SingleLine event.action ∧
        SingleLine event.id ∧
        (∀ actor ∈ event.actor, SingleLine actor.actorType ∧ (∀ name ∈ actor.name, SingleLine name) ∧
          ∀ ip ∈ actor.sourceIp, SingleLine ip) ∧
        SingleLine event.message := by
  have time := (chrono.micros_text event.timestamp).singleLine
  obtain ⟨id, timestamp, category, action, severity, outcome, message, actor, target, host⟩ := event
  cases actor <;> unfold encodeSyslog <;> dsimp only at time ⊢ <;>
    simp only [singleLine_append, singleLine_escapeSyslogSd_iff, singleLine_asStr, singleLine_debug,
      singleLine_toString_uint8, time, singleLine_getD_map] <;>
    simp (disch := decide) only [singleLine_eq_true] <;>
    simp <;>
    tauto

end Records

end FormatEncoder

end CoreVpn.Audit
