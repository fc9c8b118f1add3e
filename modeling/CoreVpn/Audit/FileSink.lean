import CoreVpn.Audit.Formats
import CoreVpn.Lib.FileSystem
import CoreVpn.Lib.Machine
import CoreVpn.Lib.RustStr

/-!
# The audit file sink

`corevpn-server/src/audit/sinks/file.rs`. The sink encodes each event, buffers the
record, and once `buffer_size` records are buffered, and on `flush`, appends them to
its file with `write_all(line.as_bytes())`, nothing between them. The file's path is
resolved from a template at every write, and a path that changes moves the sink to a
new file. `tokio`'s `File` writes at once here, so its `flush` changes nothing; with no
I/O error, a write never fails.

While nothing rotates the file and the path does not change, the file's bytes followed
by the buffered records' bytes grow by the record of each event sent, in order
(`call_conserves`), so over any run the file receives exactly the records, joined with
nothing between them (`run_file_bytes`). The sink maps JSON to JSON Lines, whose records
end with a line feed (`json_file_sink_writes_lines`); every other format is written
as it is, and a text format's records carry no line feed at their end.
-/

namespace CoreVpn.Audit

open FileSystem

set_option autoImplicit false

inductive RotationStrategy
  | none
  | size
  | daily
  | hourly
  | sizeAndDaily
  deriving DecidableEq, Repr

/-- `FileConfig`, the fields the sink reads: `compress` and `permissions` are read by
nothing, and `sync_writes` only flushes the `tokio` file. -/
structure FileConfig where
  path : String
  format : FormatConfig
  rotation : RotationStrategy
  maxSize : UInt64
  maxFiles : UInt32
  bufferSize : Nat

/-- What `resolve_path` reads of the clock: `Utc::now()` as `%Y-%m-%d` and as `%H`. -/
structure Stamp where
  date : String
  hour : String

structure FileSink where
  config : FileConfig
  encoder : FormatEncoder
  buffer : List String
  /-- whether a file is open; it is open at `currentPath` -/
  currentFile : Bool
  currentPath : String
  currentSize : UInt64

/-- A path template without the time placeholders. -/
def Timeless (template : String) : Prop :=
  ¬ "{date}".toList <:+: template.toList ∧ ¬ "{hour}".toList <:+: template.toList

instance (template : String) : Decidable (Timeless template) :=
  decidable_of_iff (!RustStr.contains template "{date}" && !RustStr.contains template "{hour}") (by
    simp only [Timeless, ← RustStr.contains_iff, Bool.and_eq_true, Bool.not_eq_true', Bool.not_eq_true])

namespace FileSink

variable {Instant : Type} (serde : Serde Instant) (chrono : Chrono Instant) (hostname : Option String)

/-- `resolve_path`, with `hostname` what `hostname::get` reads, none when it fails. -/
def resolvePath (now : Stamp) (template : String) : String :=
  RustStr.replace (RustStr.replace (RustStr.replace template "{date}" now.date) "{hour}" now.hour) "{host}"
    (hostname.getD "unknown")

theorem resolvePath_of_timeless {template : String} (timeless : Timeless template) (now : Stamp) :
    resolvePath hostname now template = RustStr.replace template "{host}" (hostname.getD "unknown") := by
  rw [resolvePath, RustStr.replace_of_not_infix _ _ _ timeless.1, RustStr.replace_of_not_infix _ _ _ timeless.2]

/-- `FileSink::new`: JSON is written as JSON Lines. Creating the parent directory is
left out: the file system has no directories. -/
def new (now : Stamp) (config : FileConfig) : FileSink :=
  let format := match config.format.format with
    | .json => AuditFormat.jsonLines
    | other => other
  { config, encoder := FormatEncoder.new { config.format with format }, buffer := [], currentFile := false,
    currentPath := resolvePath hostname now config.path, currentSize := 0 }

/-- `get_or_open_file`: a path that resolves differently now closes the file and moves
the sink there, and a closed file is opened for appending, created when missing. -/
def getOrOpenFile (sink : FileSink) (files : Files String) (now : Stamp) : FileSink × Files String :=
  let newPath := resolvePath hostname now sink.config.path
  let sink := if sink.currentPath ≠ newPath then
      { sink with currentFile := false, currentPath := newPath, currentSize := 0 }
    else sink
  if sink.currentFile then (sink, files)
  else
    let files := openAppend files sink.currentPath
    ({ sink with currentSize := UInt64.ofNat ((files sink.currentPath).getD []).length, currentFile := true }, files)

/-- `check_rotation`: only the size strategies rotate here. -/
def checkRotation (sink : FileSink) : Bool :=
  match sink.config.rotation with
  | .size | .sizeAndDaily => sink.currentSize ≥ sink.config.maxSize
  | _ => false

def backupPath (path : String) (i : Nat) : String := path ++ "." ++ toString i

/-- `rotate`: the file is closed, the backups `path.i` moved to `path.(i + 1)` from
`max_files - 1` down, and the file moved to `path.1`. -/
def rotate (sink : FileSink) (files : Files String) : FileSink × Files String :=
  let files := shiftUp (backupPath sink.currentPath) 1 (sink.config.maxFiles.toNat - 1) files
  ({ sink with currentFile := false, currentSize := 0 }, rename files sink.currentPath (backupPath sink.currentPath 1))

def appendLines (path : String) : List String → Files String × UInt64 → Files String × UInt64
  | [], state => state
  | line :: lines, state =>
      appendLines path lines
        (append state.1 path (RustStr.asBytes line), state.2 + UInt64.ofNat (RustStr.asBytes line).length)

/-- `write_lines`: nothing for no lines; otherwise the file is rotated when the strategy
asks, opened, and every line appended as it is. -/
def writeLines (sink : FileSink) (files : Files String) (now : Stamp) (lines : List String) :
    FileSink × Files String :=
  if lines.isEmpty then (sink, files)
  else
    let rotated := if sink.checkRotation then sink.rotate files else (sink, files)
    let opened := getOrOpenFile hostname rotated.1 rotated.2 now
    if opened.1.currentFile then
      let written := appendLines opened.1.currentPath lines (opened.2, opened.1.currentSize)
      ({ opened.1 with currentSize := written.2 }, written.1)
    else opened

/-- `send`: the record is buffered, and the buffer written once it holds `buffer_size`
records. -/
def send (sink : FileSink) (files : Files String) (now : Stamp) (event : AuditEvent Instant) :
    Except AuditError Unit × (FileSink × Files String) :=
  match sink.encoder.encode serde chrono event with
  | .error error => (.error error, (sink, files))
  | .ok line =>
      let buffer := sink.buffer ++ [line]
      if sink.config.bufferSize ≤ buffer.length then (.ok (), writeLines hostname { sink with buffer := [] } files now buffer)
      else (.ok (), ({ sink with buffer }, files))

/-- `flush`: the buffer is written. -/
def flush (sink : FileSink) (files : Files String) (now : Stamp) : FileSink × Files String :=
  writeLines hostname { sink with buffer := [] } files now sink.buffer

/-- `close`: a flush, and the file closed. -/
def close (sink : FileSink) (files : Files String) (now : Stamp) : FileSink × Files String :=
  let flushed := flush hostname sink files now
  ({ flushed.1 with currentFile := false }, flushed.2)

/-- A call to the sink. -/
inductive Call (Instant : Type)
  | send (event : AuditEvent Instant)
  | flush
  | close

def call (state : FileSink × Files String) (input : Call Instant × Stamp) :
    Except AuditError Unit × (FileSink × Files String) :=
  match input.1 with
  | .send event => send serde chrono hostname state.1 state.2 input.2 event
  | .flush => (.ok (), flush hostname state.1 state.2 input.2)
  | .close => (.ok (), close hostname state.1 state.2 input.2)

/-! ## One file, no rotation -/

/-- What keeps a sink on one file: the configuration and the encoder it started with,
no rotation, and a path that resolves to the current one at every time. -/
structure Steady (config : FileConfig) (encoder : FormatEncoder) (sink : FileSink) : Prop where
  config_eq : sink.config = config
  encoder_eq : sink.encoder = encoder
  unrotated : config.rotation = .none
  fixed : ∀ now, resolvePath hostname now config.path = sink.currentPath

def held (state : FileSink × Files String) : List UInt8 :=
  (state.2 state.1.currentPath).getD [] ++ state.1.buffer.flatMap RustStr.asBytes

def recordBytes (encoder : FormatEncoder) (input : Call Instant × Stamp) : List UInt8 :=
  match input.1 with
  | .send event =>
      match encoder.encode serde chrono event with
      | .ok line => RustStr.asBytes line
      | .error _ => []
  | _ => []

theorem appendLines_self (path : String) (lines : List String) (state : Files String × UInt64) :
    ((appendLines path lines state).1 path).getD [] = (state.1 path).getD [] ++ lines.flatMap RustStr.asBytes := by
  induction lines generalizing state with
  | nil => simp [appendLines]
  | cons line lines ih =>
      rw [appendLines, ih]
      simp only [append_self, Option.getD_some, List.flatMap_cons, List.append_assoc]

section Steady

variable {config : FileConfig} {encoder : FormatEncoder} {sink : FileSink}

theorem Steady.frame (steady : Steady hostname config encoder sink) {other : FileSink}
    (sameConfig : other.config = sink.config) (sameEncoder : other.encoder = sink.encoder)
    (samePath : other.currentPath = sink.currentPath) : Steady hostname config encoder other :=
  ⟨sameConfig.trans steady.config_eq, sameEncoder.trans steady.encoder_eq, steady.unrotated,
    fun now => (steady.fixed now).trans samePath.symm⟩

theorem getOrOpenFile_of_fixed (files : Files String) (now : Stamp)
    (same : resolvePath hostname now sink.config.path = sink.currentPath) :
    getOrOpenFile hostname sink files now =
      if sink.currentFile then (sink, files)
      else
        ({ sink with
            currentSize := UInt64.ofNat ((openAppend files sink.currentPath sink.currentPath).getD []).length
            currentFile := true },
          openAppend files sink.currentPath) := by
  simp only [getOrOpenFile, same, ne_eq, not_true_eq_false, if_false]

theorem writeLines_of_steady (steady : Steady hostname config encoder sink) (files : Files String) (now : Stamp)
    (lines : List String) :
    Steady hostname config encoder (writeLines hostname sink files now lines).1 ∧
      (writeLines hostname sink files now lines).1.buffer = sink.buffer ∧
      (writeLines hostname sink files now lines).1.currentPath = sink.currentPath ∧
      ((writeLines hostname sink files now lines).2 sink.currentPath).getD [] =
        (files sink.currentPath).getD [] ++ lines.flatMap RustStr.asBytes := by
  unfold writeLines
  by_cases empty : lines.isEmpty
  · rw [List.isEmpty_iff.mp empty]
    exact ⟨steady, rfl, rfl, by simp⟩
  have noRotation : sink.checkRotation = false := by
    simp [checkRotation, steady.config_eq, steady.unrotated]
  have same : resolvePath hostname now sink.config.path = sink.currentPath := by
    rw [steady.config_eq]
    exact steady.fixed now
  simp only [empty, noRotation, Bool.false_eq_true, if_false, getOrOpenFile_of_fixed hostname files now same]
  by_cases opened : sink.currentFile = true
  · simp only [opened, if_true]
    exact ⟨steady.frame hostname rfl rfl rfl, trivial, trivial,
      appendLines_self _ _ _⟩
  · -- the file is opened first, created when missing
    simp only [opened, Bool.false_eq_true, if_false, if_true]
    refine ⟨steady.frame hostname rfl rfl rfl, trivial, trivial, ?_⟩
    rw [appendLines_self]
    simp only [openAppend_self, Option.getD_some]

theorem call_conserves (state : FileSink × Files String) (steady : Steady hostname config encoder state.1)
    (input : Call Instant × Stamp) :
    Steady hostname config encoder (call serde chrono hostname state input).2.1 ∧
      held (call serde chrono hostname state input).2 = held state ++ recordBytes serde chrono encoder input := by
  obtain ⟨sink, files⟩ := state
  obtain ⟨request, now⟩ := input
  have writeOut : ∀ lines, Steady hostname config encoder
      (writeLines hostname { sink with buffer := [] } files now lines).1 ∧
        held (writeLines hostname { sink with buffer := [] } files now lines) =
          (files sink.currentPath).getD [] ++ lines.flatMap RustStr.asBytes := by
    intro lines
    obtain ⟨stillSteady, buffer, path, written⟩ := writeLines_of_steady hostname
      (show Steady hostname config encoder { sink with buffer := [] } from
        steady.frame hostname rfl rfl rfl) files now lines
    refine ⟨stillSteady, ?_⟩
    rw [held, buffer, path, written]
    simp
  cases request with
  | send event =>
      simp only [call, send]
      split
      · rename_i error failed
        refine ⟨steady, ?_⟩
        simp [recordBytes, ← steady.encoder_eq, failed]
      · rename_i line encoded
        have record : recordBytes serde chrono encoder (.send event, now) = RustStr.asBytes line := by
          simp [recordBytes, ← steady.encoder_eq, encoded]
        rw [record]
        split
        · -- the buffer is full and goes out with the new record
          obtain ⟨stillSteady, written⟩ := writeOut (sink.buffer ++ [line])
          refine ⟨stillSteady, ?_⟩
          rw [written, held]
          simp
        · exact ⟨steady.frame hostname rfl rfl rfl, by simp [held]⟩
  | flush =>
      obtain ⟨stillSteady, written⟩ := writeOut sink.buffer
      refine ⟨stillSteady, ?_⟩
      show held (flush hostname sink files now) = _
      rw [flush, written]
      simp [held, recordBytes]
  | close =>
      obtain ⟨stillSteady, written⟩ := writeOut sink.buffer
      refine ⟨stillSteady.frame hostname rfl rfl rfl, ?_⟩
      show held (flush hostname sink files now) = _
      rw [flush, written]
      simp [held, recordBytes]

end Steady

theorem steady_new (config : FileConfig) (opened : Stamp) (unrotated : config.rotation = .none)
    (timeless : Timeless config.path) :
    Steady hostname config (new hostname opened config).encoder (new hostname opened config) where
  config_eq := rfl
  encoder_eq := rfl
  unrotated := unrotated
  fixed now := by
    show resolvePath hostname now config.path = resolvePath hostname opened config.path
    rw [resolvePath_of_timeless hostname timeless, resolvePath_of_timeless hostname timeless]

theorem run_file_bytes (config : FileConfig) (opened : Stamp) (files : Files String)
    (unrotated : config.rotation = .none) (timeless : Timeless config.path) (calls : List (Call Instant × Stamp)) :
    (Machine.run (call serde chrono hostname) (new hostname opened config, files) calls).2.1.currentPath =
        (new hostname opened config).currentPath ∧
      held (Machine.run (call serde chrono hostname) (new hostname opened config, files) calls).2 =
        (files (new hostname opened config).currentPath).getD [] ++
          calls.flatMap (recordBytes serde chrono (new hostname opened config).encoder) := by
  have initial := steady_new hostname config opened unrotated timeless
  have preserved : ∀ (state : FileSink × Files String) input,
      Steady hostname config (new hostname opened config).encoder state.1 →
        Steady hostname config (new hostname opened config).encoder (call serde chrono hostname state input).2.1 :=
    fun state input steady => (call_conserves serde chrono hostname state steady input).1
  have start : Steady hostname config (new hostname opened config).encoder (new hostname opened config, files).1 :=
    initial
  have final := Machine.run_invariant _ _ preserved start calls
  have flow := Machine.run_flow_of_invariant _ _ preserved (fun input _ => recordBytes serde chrono
      (new hostname opened config).encoder input) (fun _ => []) held
    (fun state input steady => by rw [List.nil_append]; exact (call_conserves serde chrono hostname state steady input).2)
    start calls
  have inputsOnly : ((calls.zip (Machine.run (call serde chrono hostname) (new hostname opened config, files) calls).1).map
      Prod.fst) = calls := List.map_fst_zip (by rw [Machine.length_run])
  have silent : ∀ answers : List (Except AuditError Unit), answers.flatMap (fun _ => ([] : List UInt8)) = [] := by
    simp
  refine ⟨(final.fixed opened).symm.trans (initial.fixed opened), ?_⟩
  rw [silent, List.nil_append] at flow
  rw [flow, ← inputsOnly, List.flatMap_map, inputsOnly]
  simp [held, new]

theorem sends_flush_file (config : FileConfig) (opened : Stamp) (files : Files String)
    (unrotated : config.rotation = .none) (timeless : Timeless config.path)
    (sends : List (AuditEvent Instant × Stamp)) (last : Stamp) :
    ((Machine.run (call serde chrono hostname) (new hostname opened config, files)
        (sends.map (fun send => (Call.send send.1, send.2)) ++ [(Call.flush, last)])).2.2
          (new hostname opened config).currentPath).getD [] =
      (files (new hostname opened config).currentPath).getD [] ++
        sends.flatMap (fun send => recordBytes serde chrono (new hostname opened config).encoder (Call.send send.1, send.2)) := by
  obtain ⟨path, bytes⟩ := run_file_bytes serde chrono hostname config opened files unrotated timeless
    (sends.map (fun send => (Call.send send.1, send.2)) ++ [(Call.flush, last)])
  have emptied : (Machine.run (call serde chrono hostname) (new hostname opened config, files)
      (sends.map (fun send => (Call.send send.1, send.2)) ++ [(Call.flush, last)])).2.1.buffer = [] := by
    rw [Machine.run_concat_state]
    have start : Steady hostname config (new hostname opened config).encoder (new hostname opened config, files).1 :=
      steady_new hostname config opened unrotated timeless
    have steady := Machine.run_invariant _ _
      (fun state input steady => (call_conserves serde chrono hostname state steady input).1) start
      (sends.map (fun send => (Call.send send.1, send.2)))
    generalize (Machine.run (call serde chrono hostname) (new hostname opened config, files)
      (sends.map (fun send => (Call.send send.1, send.2)))).2 = state at steady ⊢
    exact (writeLines_of_steady hostname
      (show Steady hostname config _ { state.1 with buffer := [] } from
        steady.frame hostname rfl rfl rfl) state.2 last state.1.buffer).2.1
  rw [held, emptied, path, List.flatMap_nil, List.append_nil] at bytes
  rw [bytes, List.flatMap_append, List.flatMap_map]
  simp [recordBytes]

theorem encoder_new_isText (config : FileConfig) (opened : Stamp) :
    (new hostname opened config).encoder.config.format.isText = config.format.format.isText := by
  cases format : config.format.format <;> simp [new, FormatEncoder.new, format, AuditFormat.isText]

theorem json_file_sink_writes_lines (config : FileConfig) (opened : Stamp) (files : Files String)
    (json : config.format.format = .json) (unrotated : config.rotation = .none) (timeless : Timeless config.path)
    (sends : List (AuditEvent Instant × Stamp)) (last : Stamp) :
    ((Machine.run (call serde chrono hostname) (new hostname opened config, files)
        (sends.map (fun send => (Call.send send.1, send.2)) ++ [(Call.flush, last)])).2.2
          (new hostname opened config).currentPath).getD [] =
      (files (new hostname opened config).currentPath).getD [] ++
        sends.flatMap (fun send =>
          match serde.toString send.1 with
          | .ok text => RustStr.asBytes text ++ RustStr.asBytes "\n"
          | .error _ => []) := by
  rw [sends_flush_file serde chrono hostname config opened files unrotated timeless]
  have lines : (new hostname opened config).encoder.config.format = .jsonLines := by
    simp [new, FormatEncoder.new, json]
  congr 1
  apply List.flatMap_congr
  intro send _
  simp only [recordBytes, FormatEncoder.encode, lines, FormatEncoder.encodeJsonLines]
  cases serde.toString send.1 <;> simp [bind, Except.bind, pure, Except.pure]

theorem length_flatMap_append_newline (records : List (List UInt8)) :
    (records.flatMap fun record => record ++ RustStr.asBytes "\n").length = (records.flatMap id).length + records.length := by
  induction records with
  | nil => rfl
  | cons record records ih =>
      simp only [List.flatMap_cons, List.length_append, ih, id, List.length_cons]
      have newline : (RustStr.asBytes "\n").length = 1 := by decide
      omega

/-- A sink that writes CEF, LEEF or syslog appends each record to the file as it is,
with no line break after it: after any sends and a flush the file's new bytes are the
records joined with nothing between them, and they are the records each ended by a
line feed only when nothing was sent. -/
theorem text_format_file_sink_omits_line_breaks (config : FileConfig) (opened : Stamp) (files : Files String)
    (text : config.format.format.isText = true) (unrotated : config.rotation = .none) (timeless : Timeless config.path)
    (sends : List (AuditEvent Instant × Stamp)) (last : Stamp) :
    ((Machine.run (call serde chrono hostname) (new hostname opened config, files)
        (sends.map (fun send => (Call.send send.1, send.2)) ++ [(Call.flush, last)])).2.2
          (new hostname opened config).currentPath).getD [] =
      (files (new hostname opened config).currentPath).getD [] ++
        sends.flatMap (fun send => RustStr.asBytes ((new hostname opened config).encoder.encodeText chrono send.1)) ∧
    (sends.flatMap (fun send => RustStr.asBytes ((new hostname opened config).encoder.encodeText chrono send.1)) =
        sends.flatMap (fun send =>
          RustStr.asBytes ((new hostname opened config).encoder.encodeText chrono send.1) ++ RustStr.asBytes "\n") ↔
      sends = []) := by
  have encoderText : (new hostname opened config).encoder.config.format.isText = true := by
    rw [encoder_new_isText, text]
  constructor
  · rw [sends_flush_file serde chrono hostname config opened files unrotated timeless]
    congr 1
    apply List.flatMap_congr
    intro send _
    simp only [recordBytes, FormatEncoder.encode_of_isText _ encoderText]
  · constructor
    · -- the second holds one more byte for each record
      intro same
      have lengths := congrArg List.length same
      have counted := length_flatMap_append_newline
        (sends.map fun send => RustStr.asBytes ((new hostname opened config).encoder.encodeText chrono send.1))
      simp only [List.flatMap_map, id, List.length_map] at counted
      rw [← lengths] at counted
      exact List.length_eq_zero_iff.mp (by omega)
    · rintro rfl
      rfl

end FileSink

/-- Two events sent to a CEF sink with no rotation, at `audit.log`. -/
theorem text_format_file_sink_omits_line_breaks_for_cef :
    let serde : Serde Unit := ⟨fun _ => .ok "", fun _ => .ok "", fun _ => .ok "", fun _ => .ok "", fun _ => .ok ""⟩
    let chrono : Chrono Unit := ⟨fun _ => 0, fun _ => "", fun _ => "", fun _ _ absent => absurd absent List.not_mem_nil,
      fun _ _ absent => absurd absent List.not_mem_nil⟩
    let config : FileConfig := ⟨"audit.log", { FormatConfig.default with format := .cef }, .none, 0, 10, 100⟩
    let event := (AuditEventBuilder.authAttempt "alice" none).build "1" () none
    let sends : List (AuditEvent Unit × Stamp) := [(event, ⟨"2024-01-01", "00"⟩), (event, ⟨"2024-01-01", "00"⟩)]
    config.format.format.isText = true ∧ config.rotation = .none ∧ Timeless config.path ∧
      ((Machine.run (FileSink.call serde chrono none) (FileSink.new none ⟨"2024-01-01", "00"⟩ config, fun _ => none)
          (sends.map (fun send => (FileSink.Call.send send.1, send.2)) ++ [(FileSink.Call.flush, ⟨"2024-01-01", "00"⟩)])).2.2
            (FileSink.new none ⟨"2024-01-01", "00"⟩ config).currentPath).getD [] =
        ((fun _ => none : Files String) (FileSink.new none ⟨"2024-01-01", "00"⟩ config).currentPath).getD [] ++
          sends.flatMap (fun send =>
            RustStr.asBytes ((FileSink.new none ⟨"2024-01-01", "00"⟩ config).encoder.encodeText chrono send.1)) ∧
      (sends.flatMap (fun send =>
            RustStr.asBytes ((FileSink.new none ⟨"2024-01-01", "00"⟩ config).encoder.encodeText chrono send.1)) =
          sends.flatMap (fun send =>
            RustStr.asBytes ((FileSink.new none ⟨"2024-01-01", "00"⟩ config).encoder.encodeText chrono send.1) ++
              RustStr.asBytes "\n") ↔
        sends = []) := by
  intro serde chrono config event sends
  have text : config.format.format.isText = true := rfl
  have unrotated : config.rotation = .none := rfl
  have timeless : Timeless config.path := by decide
  exact ⟨text, unrotated, timeless, FileSink.text_format_file_sink_omits_line_breaks serde chrono none config
    ⟨"2024-01-01", "00"⟩ (fun _ => none) text unrotated timeless sends ⟨"2024-01-01", "00"⟩⟩

end CoreVpn.Audit
