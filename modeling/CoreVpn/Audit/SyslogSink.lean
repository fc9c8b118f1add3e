import CoreVpn.Audit.Formats
import CoreVpn.Lib.Framing
import CoreVpn.Lib.Machine

/-!
# The syslog sink

`corevpn-server/src/audit/sinks/syslog.rs`: the sink encodes each event in CEF, LEEF
or syslog, frames it, and sends it at once over UDP or, over TCP and TLS, buffers
it and sends ten at a time and on `flush`. The transport is a stub in the source,
which builds each frame and logs its size; what a call answers here is the frames
it builds, in order.

Over any run of calls, what the sink has sent followed by what it still buffers is
the frames of the records of the events it was given, in order (`run_sent`). Without
octet counting a frame is the record and a newline, and a reader that cuts the
stream at newlines gets back one frame per event exactly when no record holds a
newline (`frames_run_iff`); which texts of an event can put one there is said per
format in `CoreVpn.Audit.Formats`.
-/

namespace CoreVpn.Audit

set_option autoImplicit false

inductive SyslogProtocol
  | udp
  | tcp
  | tls
  deriving DecidableEq, Repr

/-- `SyslogConfig`, the fields the sink reads. The address and port only name the
destination in log lines, and the TLS and reconnect settings are read by nothing. -/
structure SyslogConfig where
  protocol : SyslogProtocol
  facility : UInt8
  appName : String
  useCef : Bool
  useLeef : Bool
  octetCounting : Bool

structure SyslogSink where
  config : SyslogConfig
  encoder : FormatEncoder
  buffer : List String

namespace SyslogSink

variable {Instant : Type} (serde : Serde Instant) (chrono : Chrono Instant)

/-- `SyslogSink::new`: CEF or LEEF when asked for, syslog otherwise. -/
def new (config : SyslogConfig) : SyslogSink where
  config := config
  encoder := FormatEncoder.new
    { FormatConfig.default with
      format := if config.useCef then .cef else if config.useLeef then .leef else .syslog
      syslogFacility := config.facility
      syslogAppName := config.appName }
  buffer := []

/-- `frame_message`: RFC 5425 octet counting, or the message and a newline. -/
def frameMessage (sink : SyslogSink) (message : String) : String :=
  if sink.config.octetCounting then toString message.utf8ByteSize ++ " " ++ message
  else message ++ "\n"

/-- `send_messages`: the frames it builds. -/
def sendMessages (sink : SyslogSink) (messages : List String) : List String :=
  messages.map sink.frameMessage

/-- `send`: over UDP the frame goes at once; over TCP and TLS the message is buffered,
and the buffer is sent once it holds ten. -/
def send (sink : SyslogSink) (event : AuditEvent Instant) : Except AuditError (List String) × SyslogSink :=
  match sink.encoder.encode serde chrono event with
  | .error error => (.error error, sink)
  | .ok message =>
      match sink.config.protocol with
      | .udp => (.ok (sink.sendMessages [message]), sink)
      | .tcp | .tls =>
          let buffer := sink.buffer ++ [message]
          if 10 ≤ buffer.length then (.ok (sink.sendMessages buffer), { sink with buffer := [] })
          else (.ok [], { sink with buffer := buffer })

def flush (sink : SyslogSink) : List String × SyslogSink :=
  (sink.sendMessages sink.buffer, { sink with buffer := [] })

/-- A call to the sink. -/
inductive Call (Instant : Type)
  | send (event : AuditEvent Instant)
  | flush

def call (sink : SyslogSink) : Call Instant → Except AuditError (List String) × SyslogSink
  | .send event => sink.send serde chrono event
  | .flush => (.ok sink.flush.1, sink.flush.2)

def sent (answers : List (Except AuditError (List String))) : List String :=
  answers.flatMap fun answer =>
    match answer with
    | .ok frames => frames
    | .error _ => []

def events : List (Call Instant) → List (AuditEvent Instant)
  | [] => []
  | .send event :: calls => event :: events calls
  | .flush :: calls => events calls

@[simp] theorem events_nil : events ([] : List (Call Instant)) = [] := rfl

@[simp] theorem events_send (event : AuditEvent Instant) (calls : List (Call Instant)) :
    events (.send event :: calls) = event :: events calls := rfl

@[simp] theorem events_flush (calls : List (Call Instant)) : events (.flush :: calls) = events calls := rfl

/-- What a sink keeps true between calls: it encodes in a text format, and over UDP it
buffers nothing. -/
structure Ready (sink : SyslogSink) : Prop where
  text : sink.encoder.config.format.isText = true
  unbuffered : sink.config.protocol = .udp → sink.buffer = []

theorem ready_new (config : SyslogConfig) : (new config).Ready where
  text := by
    simp only [new, FormatEncoder.new]
    split
    · rfl
    · split <;> rfl
  unbuffered := fun _ => rfl

theorem call_step (sink : SyslogSink) (ready : sink.Ready) (request : Call Instant) :
    (sink.call serde chrono request).2.config = sink.config ∧
      (sink.call serde chrono request).2.encoder = sink.encoder ∧
      (sink.call serde chrono request).2.Ready ∧
      ∃ frames, (sink.call serde chrono request).1 = .ok frames ∧
        frames ++ (sink.call serde chrono request).2.buffer.map sink.frameMessage =
          sink.buffer.map sink.frameMessage ++
            (events [request]).map fun event => sink.frameMessage (sink.encoder.encodeText chrono event) := by
  cases request with
  | flush => exact ⟨rfl, rfl, ⟨ready.text, fun _ => rfl⟩, _, rfl, by simp [call, flush, sendMessages]⟩
  | send event =>
      have encoded := sink.encoder.encode_of_isText ready.text serde chrono event
      simp only [call, send, encoded, events_send, events_nil, List.map_cons, List.map_nil]
      cases protocol : sink.config.protocol with
      | udp =>
          rw [ready.unbuffered protocol]
          exact ⟨rfl, rfl, ready, _, rfl, by simp [sendMessages]⟩
      | tcp | tls =>
          have notUdp : sink.config.protocol ≠ .udp := by simp [protocol]
          dsimp only
          split
          · exact ⟨rfl, rfl, ⟨ready.text, fun udp => absurd udp notUdp⟩, _, rfl, by simp [sendMessages]⟩
          · exact ⟨rfl, rfl, ⟨ready.text, fun udp => absurd udp notUdp⟩, _, rfl, by simp⟩

theorem run_sent (sink : SyslogSink) (ready : sink.Ready) (calls : List (Call Instant)) :
    sent (Machine.run (call serde chrono) sink calls).1 ++
        (Machine.run (call serde chrono) sink calls).2.buffer.map sink.frameMessage =
      sink.buffer.map sink.frameMessage ++
        (events calls).map fun event => sink.frameMessage (sink.encoder.encodeText chrono event) := by
  induction calls generalizing sink with
  | nil => simp [sent]
  | cons request calls ih =>
      obtain ⟨config, encoder, stepReady, frames, answer, step⟩ := call_step serde chrono sink ready request
      have later := ih _ stepReady
      have sameFrame : (sink.call serde chrono request).2.frameMessage = sink.frameMessage := by
        unfold frameMessage
        rw [config]
      rw [sameFrame, encoder] at later
      have split : events (request :: calls) = events [request] ++ events calls := by
        cases request <;> rfl
      rw [Machine.run_cons, sent, List.flatMap_cons, answer, ← sent, List.append_assoc, later,
        ← List.append_assoc, step, split, List.map_append, List.append_assoc]

theorem events_append (calls more : List (Call Instant)) :
    events (calls ++ more) = events calls ++ events more := by
  induction calls with
  | nil => rfl
  | cons request calls ih => cases request <;> simp [ih]

theorem run_flush_buffer (sink : SyslogSink) (calls : List (Call Instant)) :
    (Machine.run (call serde chrono) sink (calls ++ [.flush])).2.buffer = [] := by
  rw [Machine.run_append]
  rfl

theorem stream_sendMessages (sink : SyslogSink) (plain : sink.config.octetCounting = false)
    (records : List String) :
    (String.join (sink.sendMessages records)).toList = Framing.delimit '\n' (records.map String.toList) := by
  have framed : ∀ record, (sink.frameMessage record).toList = record.toList ++ ['\n'] := by
    intro record
    simp [frameMessage, plain]
  simp only [sendMessages, String.toList_join, List.flatMap_map, framed, Framing.delimit, List.flatMap_map]

theorem frames_run_iff (sink : SyslogSink) (ready : sink.Ready) (fresh : sink.buffer = [])
    (plain : sink.config.octetCounting = false) (calls : List (Call Instant)) :
    Framing.frames '\n' (String.join (sent (Machine.run (call serde chrono) sink (calls ++ [.flush])).1)).toList =
        (events calls).map (fun event => (sink.encoder.encodeText chrono event).toList) ↔
      ∀ event ∈ events calls, '\n' ∉ (sink.encoder.encodeText chrono event).toList := by
  have whole := run_sent serde chrono sink ready (calls ++ [.flush])
  rw [run_flush_buffer, fresh, List.map_nil, List.append_nil, List.nil_append, events_append] at whole
  have sentFrames : sent (Machine.run (call serde chrono) sink (calls ++ [.flush])).1 =
      sink.sendMessages ((events calls).map fun event => sink.encoder.encodeText chrono event) := by
    rw [whole, sendMessages, List.map_map]
    simp
  rw [sentFrames, stream_sendMessages sink plain, List.map_map]
  refine (Framing.frames_delimit_eq_iff '\n' _).trans ?_
  simp

/-- A username that holds a newline forges a syslog line. The sink in its default
configuration, syslog format over UDP without octet counting, sends the
authentication-attempt event as one frame, and a reader that cuts frames at newlines
takes two or more frames from it, the last being the text the username carries after
its newline. -/
theorem forged_username_splits_syslog_frame (serde : Serde Instant) (chrono : Chrono Instant)
    (id : String) (now : Instant) (hostname : Option String) :
    let sink : SyslogSink := new ⟨.udp, 4, "corevpn", false, false, false⟩
    let forged := "<38>1 - vpn corevpn - auth.success - admin logged in"
    let event := (AuditEventBuilder.authAttempt ("alice\n" ++ forged) none).build id now hostname
    ∃ frame, (sink.send serde chrono event).1 = .ok [frame] ∧
      2 ≤ (Framing.frames '\n' frame.toList).length ∧
      (Framing.frames '\n' frame.toList).getLast? = some forged.toList := by
  intro sink forged event
  obtain ⟨header, record⟩ := sink.encoder.encodeSyslog_ends_with_message chrono event
  have syslog : sink.encoder.encodeText chrono event = sink.encoder.encodeSyslog chrono event := rfl
  have plain : sink.config.octetCounting = false := rfl
  have message : event.message.toList =
      ("Authentication attempt for user: " ++ "alice").toList ++ '\n' :: forged.toList := by
    show ("Authentication attempt for user: " ++ ("alice\n" ++ forged)).toList = _
    rw [String.toList_append, String.toList_append, String.toList_append,
      show "alice\n".toList = "alice".toList ++ ['\n'] by decide]
    simp only [List.append_assoc, List.singleton_append]
  have clean : '\n' ∉ forged.toList := by
    simp only [forged]
    decide
  have framed : (sink.frameMessage (sink.encoder.encodeText chrono event)).toList =
      (header.toList ++ ("Authentication attempt for user: " ++ "alice").toList) ++
        '\n' :: (forged.toList ++ ['\n']) := by
    rw [syslog, record, frameMessage, plain, if_neg Bool.false_ne_true, String.toList_append,
      String.toList_append, message, show "\n".toList = ['\n'] from rfl]
    simp only [List.append_assoc, List.cons_append]
  refine ⟨sink.frameMessage (sink.encoder.encodeText chrono event), ?_, ?_, ?_⟩
  · -- the default sink sends over UDP at once
    have encoded := sink.encoder.encode_of_isText (ready_new _).text serde chrono event
    simp only [send, encoded]
    rfl
  · rw [framed, Framing.frames_append_separator _ _ _ clean, List.length_append, List.length_singleton]
    have pieces := List.length_pos_of_ne_nil
      (List.splitOn_ne_nil '\n' (header.toList ++ ("Authentication attempt for user: " ++ "alice").toList))
    omega
  · rw [framed, Framing.frames_append_separator _ _ _ clean, List.getLast?_concat]

end SyslogSink

end CoreVpn.Audit
