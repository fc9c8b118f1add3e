import CoreVpn.ConnectionLog.FileLogger

/-!
# Reading the file log back

`query_recent` and `query_connection` (`corevpn-server/src/connection_log/file_logger.rs`)
flush the writer, read the log file as text and parse each line with
`serde_json::from_str`, which enters as a parameter; a line that does not parse is
skipped. `query_recent` takes the last `limit` lines, newest first, before it parses
them, and `query_connection` keeps the events of one connection.

Along a run of calls that stays below the size limit, so that nothing rotates, the log
file followed by the writer's buffer grows by one JSON line per logged event
(`call_held`, `run_held`). From a new logger on an empty log, and for events whose JSON
text parses back to them and holds no line break, the queries after the run return the
logged events: those of the connection in order (`queryConnection_run`), and the last
`limit` newest first (`queryRecent_run`).
-/

namespace CoreVpn.ConnectionLog

open FileSystem

set_option autoImplicit false

namespace FileConnectionLogger

variable {Path : Type} [DecidableEq Path] (withExtension : Path → String → Path)
  (toJson : ConnectionEvent → String) (fromJson : String → Option ConnectionEvent)

/-- `query_recent`; the warning for a `limit` above 1000 is left out. -/
def queryRecent (logger : FileConnectionLogger Path) (files : Files Path) (limit : Nat) :
    Except ReadError (Option (List ConnectionEvent)) × (FileConnectionLogger Path × Files Path) :=
  let flushed := flush logger files
  match readToString flushed.2 logger.path with
  | .error error => (.error error, flushed)
  | .ok content => (.ok (some (((RustStr.lines content).reverse.take limit).filterMap fromJson)), flushed)

def queryConnection (logger : FileConnectionLogger Path) (files : Files Path) (id : ConnectionId) :
    Except ReadError (Option (List ConnectionEvent)) × (FileConnectionLogger Path × Files Path) :=
  let flushed := flush logger files
  match readToString flushed.2 logger.path with
  | .error error => (.error error, flushed)
  | .ok content =>
      (.ok (some (((RustStr.lines content).filterMap fromJson).filter fun event => event.connectionId = id)),
        flushed)

section Read

variable {logger : FileConnectionLogger Path} {files : Files Path} {content : String}
  (read : readToString (flush logger files).2 logger.path = .ok content)
include read

theorem queryRecent_of_read (limit : Nat) :
    (queryRecent fromJson logger files limit).1 =
      .ok (some (((RustStr.lines content).reverse.take limit).filterMap fromJson)) := by
  unfold queryRecent
  dsimp only
  rw [read]

theorem queryConnection_of_read (id : ConnectionId) :
    (queryConnection fromJson logger files id).1 =
      .ok (some (((RustStr.lines content).filterMap fromJson).filter fun event => event.connectionId = id)) := by
  unfold queryConnection
  dsimp only
  rw [read]

end Read

def loggedEvents : List Call → List ConnectionEvent
  | [] => []
  | .log event :: calls => event :: loggedEvents calls
  | .flush :: calls => loggedEvents calls
  | .cleanup :: calls => loggedEvents calls

@[simp] theorem loggedEvents_nil : loggedEvents [] = [] := rfl

@[simp] theorem loggedEvents_log (event : ConnectionEvent) (calls : List Call) :
    loggedEvents (.log event :: calls) = event :: loggedEvents calls := rfl

@[simp] theorem loggedEvents_flush (calls : List Call) : loggedEvents (.flush :: calls) = loggedEvents calls := rfl

@[simp] theorem loggedEvents_cleanup (calls : List Call) :
    loggedEvents (.cleanup :: calls) = loggedEvents calls := rfl

theorem loggedEvents_cons (request : Call) (calls : List Call) :
    loggedEvents (request :: calls) = loggedEvents [request] ++ loggedEvents calls := by
  cases request <;> rfl

def lineBytes (events : List ConnectionEvent) : List UInt8 :=
  events.flatMap fun event => RustStr.asBytes (toJson event) ++ RustStr.asBytes "\n"

@[simp] theorem lineBytes_nil : lineBytes toJson [] = [] := rfl

theorem lineBytes_append (front back : List ConnectionEvent) :
    lineBytes toJson (front ++ back) = lineBytes toJson front ++ lineBytes toJson back :=
  List.flatMap_append ..

def held (state : FileConnectionLogger Path × Files Path) : List UInt8 :=
  (state.2 state.1.path).getD [] ++ state.1.buffered

/-! ## One call -/

section Held

variable (logger : FileConnectionLogger Path) (files : Files Path)

omit [DecidableEq Path] in
theorem held_of_writer {writer : BufWriter Path} (found : logger.writer = some writer) :
    held (logger, files) = writer.contents files := by
  rw [held, buffered, found, BufWriter.contents, logger.writer_path writer found]
  rfl

omit [DecidableEq Path] in
theorem length_file_le_held : ((files logger.path).getD []).length ≤ (held (logger, files)).length := by
  rw [held, List.length_append]
  exact Nat.le_add_right _ _

theorem rotateIfNeeded_of_held (short : (held (logger, files)).length < logger.maxSize) :
    rotateIfNeeded withExtension logger files = (logger, files) := by
  apply rotateIfNeeded_of_short
  exact Nat.lt_of_le_of_lt (length_file_le_held logger files) short

@[simp] theorem path_flush : (flush logger files).1.path = logger.path := by
  unfold flush
  split <;> rfl

@[simp] theorem maxSize_flush : (flush logger files).1.maxSize = logger.maxSize := by
  unfold flush
  split <;> rfl

theorem held_flush : held (flush logger files) = held (logger, files) := by
  unfold flush
  split
  · rfl
  · rename_i writer found
    rw [held_of_writer _ _ rfl, held_of_writer logger files found]
    exact BufWriter.contents_flushBuf writer files

theorem isSome_flush (present : (files logger.path).isSome) :
    ((flush logger files).2 (flush logger files).1.path).isSome := by
  rw [path_flush]
  unfold flush
  split
  · exact present
  · rename_i writer found
    show ((writer.flushBuf files).2 logger.path).isSome
    rw [← logger.writer_path writer found] at present ⊢
    exact BufWriter.isSome_flushBuf_self writer files present

@[simp] theorem buffered_flush : (flush logger files).1.buffered = [] := by
  unfold flush
  split
  · rename_i absent
    rw [buffered, absent]
    rfl
  · rename_i writer found
    exact BufWriter.buffer_flushBuf writer files

theorem flush_self (opened : logger.writer.isSome) (present : (files logger.path).isSome) :
    (flush logger files).2 logger.path = some (held (logger, files)) := by
  obtain ⟨writer, found⟩ := Option.isSome_iff_exists.mp opened
  obtain ⟨content, onDisk⟩ := Option.isSome_iff_exists.mp present
  have flushed := held_flush logger files
  have kept := isSome_flush logger files present
  rw [path_flush] at kept
  obtain ⟨after, written⟩ := Option.isSome_iff_exists.mp kept
  rw [held, buffered_flush, List.append_nil, path_flush, written, Option.getD_some] at flushed
  rw [written, flushed]

variable (event : ConnectionEvent)

theorem writeEvent_held {written : FileConnectionLogger Path × Files Path}
    (wrote : writeEvent toJson logger files event = .ok written) :
    held written = held (logger, files) ++ RustStr.asBytes (toJson event) ++ RustStr.asBytes "\n" ∧
      written.1.path = logger.path ∧ written.1.maxSize = logger.maxSize ∧
      ((files logger.path).isSome → (written.2 logger.path).isSome) := by
  unfold writeEvent at wrote
  split at wrote
  · cases wrote
  · rename_i writer found
    cases wrote
    have same := logger.writer_path writer found
    refine ⟨?_, rfl, rfl, fun present => ?_⟩
    · rw [held_of_writer _ _ rfl, held_of_writer logger files found, BufWriter.writeAll_contents,
        BufWriter.writeAll_contents]
    · -- both writes go through the writer at the log path, which keeps the file
      show (((writer.writeAll files (RustStr.asBytes (toJson event))).1.writeAll
        (writer.writeAll files (RustStr.asBytes (toJson event))).2 (RustStr.asBytes "\n")).2 logger.path).isSome
      rw [← same] at present ⊢
      have first := BufWriter.isSome_writeAll_self writer files (RustStr.asBytes (toJson event)) present
      have second := BufWriter.isSome_writeAll_self (writer.writeAll files (RustStr.asBytes (toJson event))).1
        (writer.writeAll files (RustStr.asBytes (toJson event))).2 (RustStr.asBytes "\n")
        (by rw [BufWriter.path_writeAll]; exact first)
      rwa [BufWriter.path_writeAll] at second

end Held

/-- What holds along a run that does not rotate: the logger is ready, its log file
exists, and the path and the size limit stay those it started with. -/
structure Steady (path : Path) (maxSize : Nat) (state : FileConnectionLogger Path × Files Path) : Prop where
  ready : state.1.Ready
  present : (state.2 state.1.path).isSome
  path_eq : state.1.path = path
  maxSize_eq : state.1.maxSize = maxSize

section Run

variable {path : Path} {maxSize : Nat}

theorem log_held (logger : FileConnectionLogger Path) (files : Files Path) (steady : Steady path maxSize (logger, files))
    (short : (held (logger, files)).length < maxSize) (event : ConnectionEvent) :
    Steady path maxSize (log withExtension toJson logger files event).2 ∧
      held (log withExtension toJson logger files event).2 =
        held (logger, files) ++ RustStr.asBytes (toJson event) ++ RustStr.asBytes "\n" := by
  have stamped : (logger.recordTimestamp event.timestamp).Ready := ⟨steady.ready.opened, steady.ready.fewPending⟩
  have unrotated : rotateIfNeeded withExtension (logger.recordTimestamp event.timestamp) files =
      (logger.recordTimestamp event.timestamp, files) := by
    apply rotateIfNeeded_of_held
    rw [← steady.maxSize_eq] at short
    exact short
  obtain ⟨writer, found⟩ := Option.isSome_iff_exists.mp stamped.opened
  obtain ⟨written, wrote, -, -⟩ := writeEvent_of_open toJson _ files found event
  obtain ⟨grown, samePath, sameMax, kept⟩ := writeEvent_held toJson _ files event wrote
  have ready := (log_of_ready withExtension toJson logger files steady.ready event).2
  have present : (written.2 written.1.path).isSome := by
    rw [samePath]
    exact kept steady.present
  refine ⟨⟨ready, ?_, ?_, ?_⟩, ?_⟩ <;> simp only [log, unrotated, wrote]
  · -- the event is counted, and the writer flushed once 100 are pending
    split
    · exact isSome_flush _ _ present
    · exact present
  · split
    · rw [path_flush, samePath]
      exact steady.path_eq
    · rw [samePath]
      exact steady.path_eq
  · split
    · rw [maxSize_flush, sameMax]
      exact steady.maxSize_eq
    · rw [sameMax]
      exact steady.maxSize_eq
  · split
    · rw [held_flush]
      exact grown
    · exact grown

theorem call_held (state : FileConnectionLogger Path × Files Path) (steady : Steady path maxSize state)
    (short : (held state).length < maxSize) (request : Call) :
    Steady path maxSize (call withExtension toJson state request).2 ∧
      held (call withExtension toJson state request).2 = held state ++ lineBytes toJson (loggedEvents [request]) := by
  obtain ⟨logger, files⟩ := state
  cases request with
  | log event =>
      obtain ⟨stillSteady, grown⟩ := log_held withExtension toJson logger files steady short event
      refine ⟨stillSteady, ?_⟩
      rw [call, grown, loggedEvents_log, loggedEvents_nil, lineBytes, List.flatMap_singleton, List.append_assoc]
  | flush =>
      refine ⟨⟨ready_flush logger files steady.ready.opened, isSome_flush logger files steady.present, ?_, ?_⟩, ?_⟩
      · rw [call, path_flush]
        exact steady.path_eq
      · rw [call, maxSize_flush]
        exact steady.maxSize_eq
      · rw [call, held_flush, loggedEvents_flush, loggedEvents_nil, lineBytes_nil, List.append_nil]
  | cleanup =>
      have unrotated : rotateIfNeeded withExtension logger files = (logger, files) := by
        apply rotateIfNeeded_of_held
        rw [← steady.maxSize_eq] at short
        exact short
      refine ⟨?_, ?_⟩ <;> rw [call, unrotated]
      · exact steady
      · rw [loggedEvents_cleanup, loggedEvents_nil, lineBytes_nil, List.append_nil]

theorem run_held (state : FileConnectionLogger Path × Files Path) (steady : Steady path maxSize state)
    (calls : List Call) (room : (held state).length + (lineBytes toJson (loggedEvents calls)).length < maxSize) :
    Steady path maxSize (Machine.run (call withExtension toJson) state calls).2 ∧
      held (Machine.run (call withExtension toJson) state calls).2 = held state ++ lineBytes toJson (loggedEvents calls) := by
  induction calls generalizing state with
  | nil => exact ⟨steady, by rw [loggedEvents_nil, lineBytes_nil, List.append_nil]; rfl⟩
  | cons request calls ih =>
      rw [loggedEvents_cons, lineBytes_append, List.length_append] at room
      obtain ⟨stepSteady, stepHeld⟩ := call_held withExtension toJson state steady (by omega) request
      have later : (held (call withExtension toJson state request).2).length +
          (lineBytes toJson (loggedEvents calls)).length < maxSize := by
        rw [stepHeld, List.length_append]
        omega
      obtain ⟨endSteady, endHeld⟩ := ih _ stepSteady later
      refine ⟨endSteady, ?_⟩
      rw [Machine.run_cons, endHeld, stepHeld, loggedEvents_cons request calls, lineBytes_append, List.append_assoc]

end Run

/-! ## The queries after a run -/

section Queries

variable (path : Path) (maxSize maxFiles : Nat) (secureDelete : Bool) (files : Files Path)

theorem steady_new : Steady path (max maxSize 1048576) (new path maxSize maxFiles secureDelete files) where
  ready := ready_new files path maxSize maxFiles secureDelete
  present := by
    show (openAppend files path path).isSome
    rw [openAppend_self]
    rfl
  path_eq := rfl
  maxSize_eq := rfl

theorem held_new (fresh : (files path).getD [] = []) : held (new path maxSize maxFiles secureDelete files) = [] := by
  show (openAppend files path path).getD [] ++ [] = []
  rw [openAppend_self, Option.getD_some, fresh]
  rfl

theorem readToString_run (fresh : (files path).getD [] = []) (calls : List Call)
    (room : (lineBytes toJson (loggedEvents calls)).length < max maxSize 1048576) :
    readToString (flush (Machine.run (call withExtension toJson) (new path maxSize maxFiles secureDelete files) calls).2.1
        (Machine.run (call withExtension toJson) (new path maxSize maxFiles secureDelete files) calls).2.2).2
        (Machine.run (call withExtension toJson) (new path maxSize maxFiles secureDelete files) calls).2.1.path =
      .ok (String.ofList (Framing.delimit '\n' ((loggedEvents calls).map fun event => (toJson event).toList))) := by
  obtain ⟨steady, grown⟩ := run_held withExtension toJson _ (steady_new path maxSize maxFiles secureDelete files) calls
    (by rw [held_new path maxSize maxFiles secureDelete files fresh, List.length_nil, Nat.zero_add]; exact room)
  rw [held_new path maxSize maxFiles secureDelete files fresh, List.nil_append] at grown
  generalize Machine.run (call withExtension toJson) (new path maxSize maxFiles secureDelete files) calls = run
    at steady grown ⊢
  have flushed := flush_self run.2.1 run.2.2 steady.ready.opened steady.present
  rw [grown] at flushed
  apply readToString_of_utf8
  have texts : lineBytes toJson (loggedEvents calls) =
      ((loggedEvents calls).map toJson).flatMap fun text => RustStr.asBytes text ++ RustStr.asBytes "\n" := by
    rw [lineBytes, List.flatMap_map]
  rw [flushed, texts, RustStr.flatMap_asBytes_delimit, List.map_map]
  rfl

theorem lines_delimit_toJson (events : List ConnectionEvent)
    (clean : ∀ event ∈ events, '\n' ∉ (toJson event).toList ∧ (toJson event).toList.getLast? ≠ some '\r') :
    RustStr.lines (String.ofList (Framing.delimit '\n' (events.map fun event => (toJson event).toList))) =
      events.map toJson := by
  have texts : events.map (fun event => (toJson event).toList) = (events.map toJson).map String.toList := by
    rw [List.map_map]
    rfl
  rw [texts]
  apply RustStr.lines_delimit
  intro text member
  obtain ⟨event, inEvents, rfl⟩ := List.mem_map.mp member
  exact clean event inEvents

theorem filterMap_map_toJson (events : List ConnectionEvent)
    (readBack : ∀ event ∈ events, fromJson (toJson event) = some event) :
    (events.map toJson).filterMap fromJson = events := by
  induction events with
  | nil => rfl
  | cons event events ih =>
      rw [List.map_cons, List.filterMap_cons_some (readBack event List.mem_cons_self),
        ih fun other member => readBack other (List.mem_cons_of_mem _ member)]

variable (calls : List Call) (fresh : (files path).getD [] = [])
  (room : (lineBytes toJson (loggedEvents calls)).length < max maxSize 1048576)
  (readBack : ∀ event ∈ loggedEvents calls, fromJson (toJson event) = some event)
  (clean : ∀ event ∈ loggedEvents calls, '\n' ∉ (toJson event).toList ∧ (toJson event).toList.getLast? ≠ some '\r')

include fresh room readBack clean

theorem queryRecent_run (limit : Nat) :
    (queryRecent fromJson (Machine.run (call withExtension toJson) (new path maxSize maxFiles secureDelete files) calls).2.1
        (Machine.run (call withExtension toJson) (new path maxSize maxFiles secureDelete files) calls).2.2 limit).1 =
      .ok (some ((loggedEvents calls).reverse.take limit)) := by
  have recent : ∀ event ∈ (loggedEvents calls).reverse.take limit, fromJson (toJson event) = some event :=
    fun event member => readBack event (List.mem_reverse.mp (List.mem_of_mem_take member))
  rw [queryRecent_of_read fromJson
      (readToString_run withExtension toJson path maxSize maxFiles secureDelete files fresh calls room),
    lines_delimit_toJson toJson _ clean, ← List.map_reverse, ← List.map_take,
    filterMap_map_toJson toJson fromJson _ recent]

theorem queryConnection_run (id : ConnectionId) :
    (queryConnection fromJson (Machine.run (call withExtension toJson) (new path maxSize maxFiles secureDelete files) calls).2.1
        (Machine.run (call withExtension toJson) (new path maxSize maxFiles secureDelete files) calls).2.2 id).1 =
      .ok (some ((loggedEvents calls).filter fun event => event.connectionId = id)) := by
  rw [queryConnection_of_read fromJson
      (readToString_run withExtension toJson path maxSize maxFiles secureDelete files fresh calls room),
    lines_delimit_toJson toJson _ clean, filterMap_map_toJson toJson fromJson _ readBack]

end Queries

-- One JSON line per event, read back by a parser that knows the one event logged.
example (event : ConnectionEvent) :
    (queryConnection (fun text => if text = "event" then some event else none)
        (Machine.run (call (fun path extension => path ++ "." ++ extension) fun _ => "event")
          (new "conn.log" 0 0 false fun _ => none) [.log event]).2.1
        (Machine.run (call (fun path extension => path ++ "." ++ extension) fun _ => "event")
          (new "conn.log" 0 0 false fun _ => none) [.log event]).2.2 event.connectionId).1 =
      .ok (some [event]) := by
  have := queryConnection_run (fun path extension => path ++ "." ++ extension) (fun _ => "event")
    (fun text => if text = "event" then some event else none) "conn.log" 0 0 false (fun _ => none)
    [.log event] rfl (by
      rw [loggedEvents_log, loggedEvents_nil, lineBytes, List.flatMap_cons, List.flatMap_nil, List.append_nil]
      decide) (by simp)
    (by rw [loggedEvents_log, loggedEvents_nil]; simp only [List.mem_singleton, forall_eq]; decide)
    event.connectionId
  simpa using this

end FileConnectionLogger

end CoreVpn.ConnectionLog
