import CoreVpn.ConnectionLog.FileQuery
import CoreVpn.Lib.Window

/-!
# The memory connection logger

`MemoryConnectionLogger` (`corevpn-server/src/connection_log/memory_logger.rs`) keeps the
newest events in a `VecDeque` that holds at least 100 of them, dropping the oldest when it
is full; `flush` and `cleanup` do nothing, and `stats` reports the count of events ever
logged, the events held and the timestamps of the first and the last event logged.

A connection logger stands for its event log: every event logged, oldest first
(`logCall`). Over any run of calls, the memory logger holds the last `max n 100` events of
that log (`Abstracts`, a forward simulation of the log by the logger), so that
`query_recent` answers the newest of them and `stats` still reports as oldest the first
event ever logged, after it has been dropped (`stats_run`). On runs short enough for the
window and below the file logger's size limit, the memory and the file logger answer both
queries as the log does (`backends_agree`).
-/

namespace CoreVpn.ConnectionLog

set_option autoImplicit false

open FileConnectionLogger (Call loggedEvents loggedEvents_nil loggedEvents_log loggedEvents_flush loggedEvents_cleanup)

/-- `MemoryConnectionLogger`. The capacity handed to `VecDeque::with_capacity` only sizes
the allocation and is left out. -/
structure MemoryConnectionLogger where
  maxEvents : Nat
  events : List ConnectionEvent
  totalLogged : UInt64
  firstEvent : Option DateTime
  lastEvent : Option DateTime
  maxEvents_ge : 100 ≤ maxEvents
  events_le : events.length ≤ maxEvents

def logCall (logged : List ConnectionEvent) : Call → Except String Unit × List ConnectionEvent
  | .log event => (.ok (), logged ++ [event])
  | .flush => (.ok (), logged)
  | .cleanup => (.ok (), logged)

theorem run_logCall (logged : List ConnectionEvent) (calls : List Call) :
    Machine.run logCall logged calls = (calls.map fun _ => .ok (), logged ++ loggedEvents calls) := by
  induction calls generalizing logged with
  | nil => rw [Machine.run_nil, List.map_nil, loggedEvents_nil, List.append_nil]
  | cons request calls ih =>
      cases request with
      | log event =>
          dsimp only [Machine.run_cons, logCall]
          rw [ih, loggedEvents_log, List.append_assoc, List.singleton_append, List.map_cons]
      | flush =>
          dsimp only [Machine.run_cons, logCall]
          rw [ih, loggedEvents_flush, List.map_cons]
      | cleanup =>
          dsimp only [Machine.run_cons, logCall]
          rw [ih, loggedEvents_cleanup, List.map_cons]

def recentOf (logged : List ConnectionEvent) (limit : Nat) : List ConnectionEvent :=
  logged.reverse.take limit

def connectionOf (logged : List ConnectionEvent) (id : ConnectionId) : List ConnectionEvent :=
  logged.filter fun event => event.connectionId = id

namespace MemoryConnectionLogger

/-- `new`: at least 100 events are kept. -/
def new (maxEvents : Nat) : MemoryConnectionLogger where
  maxEvents := max maxEvents 100
  events := []
  totalLogged := 0
  firstEvent := none
  lastEvent := none
  maxEvents_ge := Nat.le_max_right maxEvents 100
  events_le := Nat.zero_le _

/-- `log`: the first timestamp is kept once set, the oldest event goes when the buffer is
full, and the event is counted. -/
def log (logger : MemoryConnectionLogger) (event : ConnectionEvent) : Except String Unit × MemoryConnectionLogger :=
  (.ok (),
    { logger with
      firstEvent := if logger.firstEvent.isNone then some event.timestamp else logger.firstEvent
      lastEvent := some event.timestamp
      events := Window.push logger.maxEvents logger.events event
      events_le := Window.length_push_le (Nat.lt_of_lt_of_le (by decide) logger.maxEvents_ge) logger.events_le event
      totalLogged := logger.totalLogged + 1 })

/-- `query_recent`: the newest `limit` events held, newest first. -/
def queryRecent (logger : MemoryConnectionLogger) (limit : Nat) : Except String (Option (List ConnectionEvent)) :=
  .ok (some (logger.events.reverse.take limit))

/-- `query_connection`: the events held of one connection, in order. -/
def queryConnection (logger : MemoryConnectionLogger) (id : ConnectionId) :
    Except String (Option (List ConnectionEvent)) :=
  .ok (some (logger.events.filter fun event => event.connectionId = id))

/-- `stats`: the storage is estimated at 256 bytes an event held. -/
def stats (logger : MemoryConnectionLogger) : LoggerStats where
  eventsLogged := logger.totalLogged
  pendingEvents := UInt64.ofNat logger.events.length
  storageBytes := some (UInt64.ofNat logger.events.length * 256)
  oldestEvent := logger.firstEvent
  newestEvent := logger.lastEvent

def call (logger : MemoryConnectionLogger) : Call → Except String Unit × MemoryConnectionLogger
  | .log event => log logger event
  | .flush => (.ok (), logger)
  | .cleanup => (.ok (), logger)

/-- The logger of capacity `capacity` stands for the log `logged`: it holds the last
`capacity` events of it, has counted them modulo `2^64`, and has kept the timestamps of the
first and the last. -/
structure Abstracts (capacity : Nat) (logger : MemoryConnectionLogger) (logged : List ConnectionEvent) : Prop where
  maxEvents_eq : logger.maxEvents = capacity
  events_eq : logger.events = Window.lastN capacity logged
  totalLogged_eq : logger.totalLogged = UInt64.ofNat logged.length
  firstEvent_eq : logger.firstEvent = logged.head?.map ConnectionEvent.timestamp
  lastEvent_eq : logger.lastEvent = logged.getLast?.map ConnectionEvent.timestamp

theorem abstracts_new (maxEvents : Nat) : Abstracts (max maxEvents 100) (new maxEvents) [] where
  maxEvents_eq := rfl
  events_eq := (Window.lastN_nil _).symm
  totalLogged_eq := rfl
  firstEvent_eq := rfl
  lastEvent_eq := rfl

theorem firstEvent_log (logged : List ConnectionEvent) (event : ConnectionEvent) :
    (if (logged.head?.map ConnectionEvent.timestamp).isNone then some event.timestamp
      else logged.head?.map ConnectionEvent.timestamp) =
        (logged ++ [event]).head?.map ConnectionEvent.timestamp := by
  cases logged with
  | nil => rfl
  | cons oldest rest => rfl

theorem abstracts_log {capacity : Nat} {logger : MemoryConnectionLogger} {logged : List ConnectionEvent}
    (abstracts : Abstracts capacity logger logged) (event : ConnectionEvent) :
    Abstracts capacity (log logger event).2 (logged ++ [event]) where
  maxEvents_eq := abstracts.maxEvents_eq
  events_eq := by
    have positive : 0 < capacity := abstracts.maxEvents_eq ▸ Nat.lt_of_lt_of_le (by decide) logger.maxEvents_ge
    show Window.push logger.maxEvents logger.events event = _
    rw [abstracts.maxEvents_eq, abstracts.events_eq, Window.push_lastN positive]
  totalLogged_eq := by
    show logger.totalLogged + 1 = _
    rw [abstracts.totalLogged_eq, List.length_append, List.length_singleton, UInt64.ofNat_add]
    rfl
  firstEvent_eq := by
    show (if logger.firstEvent.isNone then some event.timestamp else logger.firstEvent) = _
    rw [abstracts.firstEvent_eq, firstEvent_log]
  lastEvent_eq := by
    show some event.timestamp = _
    rw [List.getLast?_concat, Option.map_some]

theorem simulation (capacity : Nat) : Machine.Simulation (Abstracts capacity) call logCall := by
  intro logger logged request abstracts
  cases request with
  | log event => exact ⟨rfl, abstracts_log abstracts event⟩
  | flush => exact ⟨rfl, abstracts⟩
  | cleanup => exact ⟨rfl, abstracts⟩

theorem abstracts_run (maxEvents : Nat) (calls : List Call) :
    (Machine.run call (new maxEvents) calls).1 = calls.map (fun _ => .ok ()) ∧
      Abstracts (max maxEvents 100) (Machine.run call (new maxEvents) calls).2 (loggedEvents calls) := by
  have simulated := (simulation (max maxEvents 100)).run (abstracts_new maxEvents) calls
  rw [run_logCall, List.nil_append] at simulated
  exact simulated

/-- After any run, `stats` reports every event logged (modulo `2^64`), the last
`max maxEvents 100` of them held, and as oldest the first event ever logged, which the
buffer may have dropped. -/
theorem stats_run (maxEvents : Nat) (calls : List Call) :
    stats (Machine.run call (new maxEvents) calls).2 =
      { eventsLogged := UInt64.ofNat (loggedEvents calls).length
        pendingEvents := UInt64.ofNat (min (max maxEvents 100) (loggedEvents calls).length)
        storageBytes := some (UInt64.ofNat (min (max maxEvents 100) (loggedEvents calls).length) * 256)
        oldestEvent := (loggedEvents calls).head?.map ConnectionEvent.timestamp
        newestEvent := (loggedEvents calls).getLast?.map ConnectionEvent.timestamp } := by
  obtain ⟨_, abstracts⟩ := abstracts_run maxEvents calls
  have held : (Machine.run call (new maxEvents) calls).2.events.length =
      min (max maxEvents 100) (loggedEvents calls).length := by
    rw [abstracts.events_eq, Window.length_lastN]
  unfold stats
  rw [held, abstracts.totalLogged_eq, abstracts.firstEvent_eq, abstracts.lastEvent_eq]

theorem queryRecent_window_run (maxEvents : Nat) (calls : List Call) (limit : Nat) :
    queryRecent (Machine.run call (new maxEvents) calls).2 limit =
      .ok (some (recentOf (loggedEvents calls) (min limit (max maxEvents 100)))) := by
  obtain ⟨_, abstracts⟩ := abstracts_run maxEvents calls
  unfold queryRecent recentOf
  rw [abstracts.events_eq, Window.reverse_lastN, List.take_take]

theorem queryConnection_window_run (maxEvents : Nat) (calls : List Call) (id : ConnectionId) :
    queryConnection (Machine.run call (new maxEvents) calls).2 id =
      .ok (some (connectionOf (Window.lastN (max maxEvents 100) (loggedEvents calls)) id)) := by
  obtain ⟨_, abstracts⟩ := abstracts_run maxEvents calls
  unfold queryConnection connectionOf
  rw [abstracts.events_eq]

end MemoryConnectionLogger

/-! ## The memory and the file logger answer alike -/

section Agree

open FileSystem

variable {Path : Type} [DecidableEq Path] (withExtension : Path → String → Path)
  (toJson : ConnectionEvent → String) (fromJson : String → Option ConnectionEvent)

/-- On a run from new loggers, on an empty log file, that the window holds whole and that
stays below the file's size limit, with events whose JSON text parses back and holds no
line break, the memory and the file logger both answer `query_recent` and
`query_connection` as the event log does. -/
theorem backends_agree (path : Path) (maxSize maxFiles : Nat) (secureDelete : Bool) (files : Files Path)
    (maxEvents : Nat) (calls : List Call) (fresh : (files path).getD [] = [])
    (room : (FileConnectionLogger.lineBytes toJson (loggedEvents calls)).length < max maxSize 1048576)
    (readBack : ∀ event ∈ loggedEvents calls, fromJson (toJson event) = some event)
    (clean : ∀ event ∈ loggedEvents calls, '\n' ∉ (toJson event).toList ∧ (toJson event).toList.getLast? ≠ some '\r')
    (fits : (loggedEvents calls).length ≤ max maxEvents 100) (limit : Nat) (id : ConnectionId) :
    MemoryConnectionLogger.queryRecent (Machine.run MemoryConnectionLogger.call (.new maxEvents) calls).2 limit =
        .ok (some (recentOf (loggedEvents calls) limit)) ∧
      (FileConnectionLogger.queryRecent fromJson
          (Machine.run (FileConnectionLogger.call withExtension toJson)
            (FileConnectionLogger.new path maxSize maxFiles secureDelete files) calls).2.1
          (Machine.run (FileConnectionLogger.call withExtension toJson)
            (FileConnectionLogger.new path maxSize maxFiles secureDelete files) calls).2.2 limit).1 =
        .ok (some (recentOf (loggedEvents calls) limit)) ∧
      MemoryConnectionLogger.queryConnection (Machine.run MemoryConnectionLogger.call (.new maxEvents) calls).2 id =
        .ok (some (connectionOf (loggedEvents calls) id)) ∧
      (FileConnectionLogger.queryConnection fromJson
          (Machine.run (FileConnectionLogger.call withExtension toJson)
            (FileConnectionLogger.new path maxSize maxFiles secureDelete files) calls).2.1
          (Machine.run (FileConnectionLogger.call withExtension toJson)
            (FileConnectionLogger.new path maxSize maxFiles secureDelete files) calls).2.2 id).1 =
        .ok (some (connectionOf (loggedEvents calls) id)) := by
  obtain ⟨_, abstracts⟩ := MemoryConnectionLogger.abstracts_run maxEvents calls
  have whole : (Machine.run MemoryConnectionLogger.call (.new maxEvents) calls).2.events = loggedEvents calls := by
    rw [abstracts.events_eq, Window.lastN_of_length_le fits]
  refine ⟨?_, ?_, ?_, ?_⟩
  · unfold MemoryConnectionLogger.queryRecent recentOf
    rw [whole]
  · exact FileConnectionLogger.queryRecent_run withExtension toJson fromJson path maxSize maxFiles secureDelete files
      calls fresh room readBack clean limit
  · unfold MemoryConnectionLogger.queryConnection connectionOf
    rw [whole]
  · exact FileConnectionLogger.queryConnection_run withExtension toJson fromJson path maxSize maxFiles secureDelete
      files calls fresh room readBack clean id

theorem backends_agree_two_attempts :
    let attempt : ConnectionEvent :=
      .connectionAttempt ⟨Vector.replicate 16 0⟩ ⟨0, ⟨0, 0, by decide, by decide⟩⟩ ⟨.v4 (ipv4 192 168 1 1), 12345⟩ none
    let calls : List Call := [.log attempt, .flush, .log attempt, .cleanup]
    let toJson : ConnectionEvent → String := fun _ => "attempt"
    let fromJson : String → Option ConnectionEvent := fun text => if text = "attempt" then some attempt else none
    let withExtension : String → String → String := FileSystem.withExtension
    let file := (Machine.run (FileConnectionLogger.call withExtension toJson)
      (FileConnectionLogger.new "conn.log" 0 0 false fun _ => none) calls).2
    let memory := (Machine.run MemoryConnectionLogger.call (.new 0) calls).2
    (FileConnectionLogger.lineBytes toJson (loggedEvents calls)).length < max 0 1048576 ∧
      (∀ event ∈ loggedEvents calls, fromJson (toJson event) = some event) ∧
      (∀ event ∈ loggedEvents calls, '\n' ∉ (toJson event).toList ∧ (toJson event).toList.getLast? ≠ some '\r') ∧
      (loggedEvents calls).length ≤ max 0 100 ∧
      MemoryConnectionLogger.queryRecent memory 1 = .ok (some (recentOf (loggedEvents calls) 1)) ∧
      (FileConnectionLogger.queryRecent fromJson file.1 file.2 1).1 = .ok (some (recentOf (loggedEvents calls) 1)) ∧
      MemoryConnectionLogger.queryConnection memory attempt.connectionId =
        .ok (some (connectionOf (loggedEvents calls) attempt.connectionId)) ∧
      (FileConnectionLogger.queryConnection fromJson file.1 file.2 attempt.connectionId).1 =
        .ok (some (connectionOf (loggedEvents calls) attempt.connectionId)) := by
  intro attempt calls toJson fromJson withExtension file memory
  have room : (FileConnectionLogger.lineBytes toJson (loggedEvents calls)).length < max 0 1048576 := by decide
  have readBack : ∀ event ∈ loggedEvents calls, fromJson (toJson event) = some event := by
    intro event member
    have logged : loggedEvents calls = [attempt, attempt] := rfl
    rw [logged, List.mem_pair, or_self] at member
    rw [member]
    exact if_pos rfl
  have clean : ∀ event ∈ loggedEvents calls, '\n' ∉ (toJson event).toList ∧ (toJson event).toList.getLast? ≠ some '\r' := by
    decide
  have fits : (loggedEvents calls).length ≤ max 0 100 := by decide
  exact ⟨room, readBack, clean, fits,
    backends_agree withExtension toJson fromJson "conn.log" 0 0 false (fun _ => none) 0 calls rfl room readBack clean
      fits 1 attempt.connectionId⟩

end Agree

end CoreVpn.ConnectionLog
