import CoreVpn.Audit.Logger
import CoreVpn.Lib.Batch

/-!
# The batching audit sinks

Nine sinks of `corevpn-server/src/audit/sinks` share one shape. They are CloudWatch
(`aws.rs`), Azure Monitor, Event Hub and Sentinel (`azure.rs`), OCI Logging and Streaming
(`oracle.rs`), Elasticsearch, Splunk and Kafka. `send` makes an item of the event, pushes
it on a buffer, and hands the whole buffer to `send_batch` once it holds `batch_size`
items. `flush` and `close` hand on whatever is buffered. `send_batch` only logs what it
would send, so a batch handed on is recorded as it is (`Batch.Batcher`). What differs is
the item: the encoder's text, or a JSON value read back from it (`serde_json::from_str`),
wrapped in the sink's own record. A failure there is `send`'s error, and nothing is
buffered.

`BatchSink` is that shape, and each sink's `new` is an instance of it. Through the audit
logger, whatever the schedule, each batching sink holds the items of the events it was
sent, in order, in batches no longer than its batch size
(`batchSinks_hold_handed_items`). After the task has drained the channel and a flush, the
batches handed on are the items of every event logged (`batchSinks_drained_flush`).

Splunk and Elasticsearch read their encoder's text back as JSON. A record of a text format
(CEF, LEEF or syslog) starts with `C`, `L` or `<`, which no JSON value does, so reading it
back fails (`readJson_encodeText`), and a Splunk sink with a text format fails every
`send` and keeps nothing (`splunk_send_fails_of_isText`).
-/

namespace CoreVpn.Audit

open Batch

set_option autoImplicit false

/-- A sink that buffers the item it makes of each event and hands the buffer on in
batches. -/
structure BatchSink (α Instant : Type) where
  batchSize : Nat
  prepare : AuditEvent Instant → Except AuditError α
  batcher : Batcher α

namespace BatchSink

variable {α Instant τ : Type}

/-- `send`, `flush` and `close`; `close` is `flush`, and `send_batch` never fails. -/
def call (sink : BatchSink α Instant) : FileSink.Call Instant × τ → Except AuditError Unit × BatchSink α Instant
  | (.send event, _) =>
      match sink.prepare event with
      | .error error => (.error error, sink)
      | .ok item => (.ok (), { sink with batcher := sink.batcher.push sink.batchSize item })
  | (.flush, _) => (.ok (), { sink with batcher := sink.batcher.flush })
  | (.close, _) => (.ok (), { sink with batcher := sink.batcher.flush })

def itemsOf (prepare : AuditEvent Instant → Except AuditError α) (event : AuditEvent Instant) : List α :=
  match prepare event with
  | .ok item => [item]
  | .error _ => []

/-- The sink keeps its batch size and its way of making items, and its batches stay
within the batch size. -/
def Fit (prepare : AuditEvent Instant → Except AuditError α) (sink : BatchSink α Instant) : Prop :=
  sink.prepare = prepare ∧ Batcher.Bounded sink.batchSize sink.batcher

theorem call_send (sink : BatchSink α Instant) (event : AuditEvent Instant) (now : τ)
    {prepare : AuditEvent Instant → Except AuditError α} (fit : Fit prepare sink) :
    Fit prepare (call sink (.send event, now)).2 ∧
      (call sink (.send event, now)).2.batcher.items = sink.batcher.items ++ itemsOf prepare event := by
  obtain ⟨same, bounded⟩ := fit
  subst same
  cases prepared : sink.prepare event with
  | error error =>
      simp only [call, itemsOf, prepared, List.append_nil]
      exact ⟨⟨rfl, bounded⟩, trivial⟩
  | ok item =>
      simp only [call, itemsOf, prepared]
      exact ⟨⟨rfl, bounded.push item⟩, Batcher.items_push _ _ _⟩

theorem call_flush (sink : BatchSink α Instant) (now : τ) (request : FileSink.Call Instant)
    (flushOrClose : request = .flush ∨ request = .close) {prepare : AuditEvent Instant → Except AuditError α}
    (fit : Fit prepare sink) :
    Fit prepare (call sink (request, now)).2 ∧ (call sink (request, now)).2.batcher.items = sink.batcher.items ∧
      (call sink (request, now)).2.batcher.buffer = [] := by
  rcases flushOrClose with rfl | rfl <;>
    exact ⟨⟨fit.1, fit.2.flush⟩, Batcher.items_flush _, rfl⟩

/-! ## Through the audit logger -/

variable (prepare : AuditEvent Instant → Except AuditError α)

def heldItems (sink : BatchSink α Instant) : List α := sink.batcher.items

theorem batchSinks_hold_handed_items (logger : AuditLogger (BatchSink α Instant) Instant)
    (fits : ∀ sink ∈ logger.sinks, Fit prepare sink) (schedule : List (AuditLogger.Action Instant τ)) (receiver : Nat) :
    AuditLogger.sinkView heldItems (Machine.run (AuditLogger.step call) logger schedule).2 receiver =
        AuditLogger.sinkView heldItems logger receiver ++
          ((Machine.run (AuditLogger.step call) logger schedule).1.flatMap (AuditLogger.handedTo receiver)).flatMap
            (itemsOf prepare) ∧
      ∀ sink ∈ (Machine.run (AuditLogger.step call) logger schedule).2.sinks,
        Batcher.Bounded sink.batchSize sink.batcher := by
  have sends := fun (sink : BatchSink α Instant) event (now : τ) (fit : Fit prepare sink) =>
    call_send sink event now fit
  have keeps := fun (sink : BatchSink α Instant) (now : τ) request flushOrClose (fit : Fit prepare sink) =>
    let flushed := call_flush sink now request flushOrClose fit
    And.intro flushed.1 flushed.2.1
  refine ⟨AuditLogger.sinkView_run call heldItems (itemsOf prepare) (Fit prepare) sends keeps logger fits schedule
    receiver, fun sink member => ?_⟩
  exact (AuditLogger.fits_run call heldItems (itemsOf prepare) (Fit prepare) sends keeps logger fits schedule sink
    member).2

theorem callAll_flush (request : FileSink.Call Instant) (flushOrClose : request = .flush ∨ request = .close)
    (now : τ) (sinks : List (BatchSink α Instant)) :
    AuditLogger.callAll call request now sinks = (.ok (), sinks.map fun sink => (call sink (request, now)).2) := by
  have succeeds : ∀ sink : BatchSink α Instant, (call sink (request, now)).1 = .ok () := by
    rcases flushOrClose with rfl | rfl <;> exact fun _ => rfl
  induction sinks with
  | nil => rfl
  | cons sink sinks ih =>
      unfold AuditLogger.callAll
      rw [succeeds sink, ih, List.map_cons]

end BatchSink

/-! ## The nine sinks -/

section Sinks

variable {Instant Json : Type} (serde : Serde Instant) (chrono : Chrono Instant)
  (parseJson : String → Except String Json)

/-- `serde_json::from_str` of an encoder's text, its error turned into a serialization
error by `?`. -/
def readJson (text : String) : Except AuditError Json := (parseJson text).mapError .serialization

/-- `SplunkConfig`, the fields `send` reads. -/
structure SplunkConfig where
  sourcetype : String
  source : String
  index : Option String
  host : Option String
  format : FormatConfig
  batchSize : Nat

/-- The object `build_hec_event` makes. Its `time` is `timestamp_millis` over 1000, as a
float. -/
structure HecEvent (Json : Type) where
  timeMillis : Int
  sourcetype : String
  source : String
  event : Json
  index : Option String
  host : String

/-- `SplunkSink::build_hec_event`: the configured host, or else the event's. -/
def SplunkSink.buildHecEvent (config : SplunkConfig) (event : AuditEvent Instant) (data : Json) : HecEvent Json :=
  ⟨chrono.timestampMillis event.timestamp, config.sourcetype, config.source, data, config.index,
    config.host.getD event.host⟩

/-- `SplunkSink::new` and its `send`: the encoder's text read back as JSON, in a HEC
event. -/
def SplunkSink.new (config : SplunkConfig) : BatchSink (HecEvent Json) Instant where
  batchSize := config.batchSize
  prepare event := do
    let jsonStr ← (FormatEncoder.new config.format).encode serde chrono event
    let data ← readJson parseJson jsonStr
    pure (SplunkSink.buildHecEvent chrono config event data)
  batcher := .empty

/-- `ElasticsearchConfig`, the fields `send` reads. -/
structure ElasticsearchConfig where
  format : FormatConfig
  batchSize : Nat

/-- `ElasticsearchSink::new` and its `send`: the encoder's text read back as JSON. -/
def ElasticsearchSink.new (config : ElasticsearchConfig) : BatchSink Json Instant where
  batchSize := config.batchSize
  prepare event := do
    let jsonStr ← (FormatEncoder.new config.format).encode serde chrono event
    readJson parseJson jsonStr
  batcher := .empty

/-- `AzureMonitorConfig`, the field `send` reads. -/
structure AzureMonitorConfig where
  batchSize : Nat

/-- `AzureMonitorSink::new` and its `send`: the Azure Monitor shape of the default
format configuration, read back as JSON. -/
def AzureMonitorSink.new (config : AzureMonitorConfig) : BatchSink Json Instant where
  batchSize := config.batchSize
  prepare event := do
    let jsonStr ← (FormatEncoder.new { FormatConfig.default with format := .azureMonitor }).encode serde chrono event
    readJson parseJson jsonStr
  batcher := .empty

/-- `AzureSentinelConfig`, the fields `new` passes on; `enrich_for_sentinel` only selects a
trace message. -/
structure AzureSentinelConfig where
  batchSize : Nat

/-- `AzureSentinelSink::new`: an Azure Monitor sink with the same batch size. -/
def AzureSentinelSink.new (config : AzureSentinelConfig) : BatchSink Json Instant :=
  AzureMonitorSink.new serde chrono parseJson ⟨config.batchSize⟩

/-- `AzureEventHubConfig`, the fields `send` reads. -/
structure AzureEventHubConfig where
  format : FormatConfig
  batchSize : Nat

/-- `AzureEventHubSink::new` and its `send`: the encoder's text. -/
def AzureEventHubSink.new (config : AzureEventHubConfig) : BatchSink String Instant where
  batchSize := config.batchSize
  prepare event := (FormatEncoder.new config.format).encode serde chrono event
  batcher := .empty

/-- `KafkaConfig`, the fields `send` reads. -/
structure KafkaConfig where
  partitionKey : Option String
  format : FormatConfig
  batchSize : Nat

structure KafkaMessage where
  key : Option String
  value : String
  deriving DecidableEq

/-- `KafkaSink::extract_partition_key`: four paths into the event; any other path gives no
key. -/
def KafkaSink.extractPartitionKey (config : KafkaConfig) (event : AuditEvent Instant) : Option String :=
  config.partitionKey.bind fun keyPath =>
    match keyPath with
    | "id" => some event.id
    | "category" => some event.category.asStr
    | "actor.source_ip" => event.actor.bind (·.sourceIp)
    | "actor.name" => event.actor.bind (·.name)
    | _ => none

/-- `KafkaSink::new` and its `send`: the partition key and the encoder's text. -/
def KafkaSink.new (config : KafkaConfig) : BatchSink KafkaMessage Instant where
  batchSize := config.batchSize
  prepare event := do
    let value ← (FormatEncoder.new config.format).encode serde chrono event
    pure ⟨KafkaSink.extractPartitionKey config event, value⟩
  batcher := .empty

/-- `AwsCloudwatchConfig`, the fields `send` reads. -/
structure AwsCloudwatchConfig where
  format : FormatConfig
  batchSize : Nat

/-- `AwsCloudwatchSink::new` and its `send`: the event's time in milliseconds and the
CloudWatch shape, whatever format is configured. -/
def AwsCloudwatchSink.new (config : AwsCloudwatchConfig) : BatchSink (Int × String) Instant where
  batchSize := config.batchSize
  prepare event := do
    let message ← (FormatEncoder.new { config.format with format := .cloudWatch }).encode serde chrono event
    pure (chrono.timestampMillis event.timestamp, message)
  batcher := .empty

/-- `OracleLoggingConfig`, the fields `send` reads. -/
structure OracleLoggingConfig where
  format : FormatConfig
  batchSize : Nat

/-- The entry `OracleLoggingSink::send` buffers. -/
structure OracleLogEntry where
  data : String
  id : String
  time : String
  deriving DecidableEq

/-- `OracleLoggingSink::new` and its `send`, with `toRfc3339` chrono's `to_rfc3339`. -/
def OracleLoggingSink.new (toRfc3339 : Instant → String) (config : OracleLoggingConfig) :
    BatchSink OracleLogEntry Instant where
  batchSize := config.batchSize
  prepare event := do
    let jsonStr ← (FormatEncoder.new config.format).encode serde chrono event
    pure ⟨jsonStr, event.id, toRfc3339 event.timestamp⟩
  batcher := .empty

/-- `OracleStreamingConfig`, the fields `send` reads. -/
structure OracleStreamingConfig where
  partitionKey : Option String
  format : FormatConfig
  batchSize : Nat

structure StreamMessage where
  key : String
  value : String
  deriving DecidableEq

/-- `OracleStreamingSink::new` and its `send`: the configured key, or else the event's id,
and the encoder's text. -/
def OracleStreamingSink.new (config : OracleStreamingConfig) : BatchSink StreamMessage Instant where
  batchSize := config.batchSize
  prepare event := do
    let value ← (FormatEncoder.new config.format).encode serde chrono event
    pure ⟨config.partitionKey.getD event.id, value⟩
  batcher := .empty

/-! ## A JSON sink with a text format -/

/-- `serde_json::from_str` refuses a text whose first character starts neither
whitespace nor a JSON value. -/
def RefusesNonJson : Prop :=
  ∀ text c, text.toList.head? = some c → c ∉ "\x7b[\"-0123456789tfn \t\n\r".toList →
    ∃ message, parseJson text = .error message

theorem readJson_encodeText (refuses : RefusesNonJson parseJson) (encoder : FormatEncoder)
    (event : AuditEvent Instant) : ∃ error, readJson parseJson (encoder.encodeText chrono event) = .error error := by
  obtain ⟨c, start, first⟩ := encoder.encodeText_head chrono event
  have notValue : c ∉ "\x7b[\"-0123456789tfn \t\n\r".toList := by
    simp only [List.mem_cons, List.not_mem_nil, or_false] at start
    rcases start with rfl | rfl | rfl <;> decide
  obtain ⟨message, refused⟩ := refuses _ c first notValue
  exact ⟨.serialization message, by rw [readJson, refused]; rfl⟩

/-- With a text format, every `send` of a Splunk sink fails and leaves the sink as it was,
whatever it holds: the record is not JSON. -/
theorem splunk_send_fails_of_isText {τ : Type} (refuses : RefusesNonJson parseJson) (config : SplunkConfig)
    (text : config.format.format.isText = true) (sink : BatchSink (HecEvent Json) Instant)
    (same : sink.prepare = (SplunkSink.new serde chrono parseJson config).prepare) (event : AuditEvent Instant)
    (now : τ) : ∃ error, BatchSink.call sink (.send event, now) = (.error error, sink) := by
  have encoderText : (FormatEncoder.new config.format).config.format.isText = true := text
  obtain ⟨error, failed⟩ := readJson_encodeText chrono parseJson refuses (FormatEncoder.new config.format) event
  have prepared : sink.prepare event = .error error := by
    rw [same]
    simp only [SplunkSink.new, FormatEncoder.encode_of_isText _ encoderText]
    show readJson parseJson _ >>= _ = _
    rw [failed]
    rfl
  refine ⟨error, ?_⟩
  simp only [BatchSink.call, prepared]

end Sinks

/-- A Splunk sink writing CEF refuses an authentication event. -/
theorem splunk_send_fails_of_isText_cef :
    let serde : Serde Unit := ⟨fun _ => .ok "", fun _ => .ok "", fun _ => .ok "", fun _ => .ok "", fun _ => .ok ""⟩
    let chrono : Chrono Unit := ⟨fun _ => 0, fun _ => "", fun _ => "", fun _ _ absent => absurd absent List.not_mem_nil,
      fun _ _ absent => absurd absent List.not_mem_nil⟩
    let parseJson : String → Except String Unit := fun text =>
      match text.toList.head? with
      | some c => if c ∈ "\x7b[\"-0123456789tfn \t\n\r".toList then .ok () else .error "expected value"
      | none => .error "EOF while parsing a value"
    let config : SplunkConfig := ⟨"corevpn", "corevpn", none, none, { FormatConfig.default with format := .cef }, 100⟩
    let sink := SplunkSink.new serde chrono parseJson config
    let event := (AuditEventBuilder.authAttempt "alice" none).build "1" () none
    RefusesNonJson parseJson ∧ config.format.format.isText = true ∧
      sink.prepare = (SplunkSink.new serde chrono parseJson config).prepare ∧
      ∃ error, BatchSink.call sink (.send event, ()) = (.error error, sink) := by
  intro serde chrono parseJson config sink event
  have refuses : RefusesNonJson parseJson := by
    intro text c first notValue
    exact ⟨"expected value", by simp only [parseJson, first, notValue, if_false]⟩
  exact ⟨refuses, rfl, rfl, splunk_send_fails_of_isText serde chrono parseJson refuses config rfl sink rfl event ()⟩

end CoreVpn.Audit
