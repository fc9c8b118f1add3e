import CoreVpn.ConnectionLog.Events
import CoreVpn.Lib.FileSystem
import CoreVpn.Lib.Machine
import CoreVpn.Lib.RustStr

/-!
# The file connection logger

`corevpn-server/src/connection_log/file_logger.rs`. The logger appends one JSON line per
event to its file through a `BufWriter`, and `rotate_if_needed` moves a full file to
generation 1 (`path.with_extension("log.1")`), each generation `i` to `i + 1`, and
deletes generation `max_files`. The file system is a map from paths to contents
(`FileSystem`), with no I/O error; `Path::with_extension` and `serde_json::to_string`
enter as parameters.

One turn of the rotation loop is a rename from the generation below, whatever secure
deletion does first (`rotateStep_eq`), so the loop is the library's shift
(`rotateGenerations_eq`). With two files or more a full log then moves to generation 1
and leaves a new empty file behind, and every generation whose predecessor existed
takes its contents. With one file, which `new` makes of a `max_files` of 0 or 1, the
loop `for i in (1..1).rev()` runs no turn: the full log stays where it is, and
generation 1 is deleted.
-/

namespace CoreVpn.ConnectionLog

open FileSystem

set_option autoImplicit false

/-- `FileConnectionLogger`. The sizes are byte counts, and the counters are `AtomicU64`s
whose `fetch_add` wraps. -/
structure FileConnectionLogger (Path : Type) where
  path : Path
  maxSize : Nat
  maxFiles : Nat
  secureDelete : Bool
  writer : Option (BufWriter Path)
  totalLogged : UInt64
  pending : UInt64
  firstEvent : Option DateTime
  lastEvent : Option DateTime
  /-- `new` raises the size limit to 1 MiB -/
  maxSize_ge : 1048576 ≤ maxSize
  /-- and keeps at least one file -/
  maxFiles_pos : 0 < maxFiles
  /-- the writer writes to the log path -/
  writer_path : ∀ handle ∈ writer, handle.path = path

structure LoggerStats where
  eventsLogged : UInt64
  pendingEvents : UInt64
  storageBytes : Option UInt64
  oldestEvent : Option DateTime
  newestEvent : Option DateTime

namespace FileConnectionLogger

variable {Path : Type} [DecidableEq Path] (withExtension : Path → String → Path)

def generation (logger : FileConnectionLogger Path) (i : Nat) : Path :=
  withExtension logger.path ("log." ++ toString i)

def withWriter (logger : FileConnectionLogger Path) (writer : BufWriter Path) (same : writer.path = logger.path) :
    FileConnectionLogger Path :=
  { logger with writer := some writer, writer_path := fun _ found => Option.some.inj found ▸ same }

def buffered (logger : FileConnectionLogger Path) : List UInt8 :=
  (logger.writer.map BufWriter.buffer).getD []

def closeWriter (logger : FileConnectionLogger Path) (files : Files Path) : FileConnectionLogger Path × Files Path :=
  let files := match logger.writer with
    | some writer => (writer.flush files).2
    | none => files
  ({ logger with writer := none, writer_path := fun _ absent => absurd absent (Option.not_mem_none _) }, files)

/-- `open_file`: the log path opened for appending, created when missing, under a
`BufWriter` of 8 KiB; the writer it replaces is dropped. -/
def openFile (logger : FileConnectionLogger Path) (files : Files Path) : FileConnectionLogger Path × Files Path :=
  let closed := closeWriter logger (openAppend files logger.path)
  (closed.1.withWriter (BufWriter.withCapacity 8192 logger.path) rfl, closed.2)

/-- `FileConnectionLogger::new`. Creating the parent directory is left out: the file
system has no directories. -/
def new (path : Path) (maxSize maxFiles : Nat) (secureDelete : Bool) (files : Files Path) :
    FileConnectionLogger Path × Files Path :=
  openFile
    { path, maxSize := max maxSize 1048576, maxFiles := max maxFiles 1, secureDelete, writer := none,
      totalLogged := 0, pending := 0, firstEvent := none, lastEvent := none,
      maxSize_ge := Nat.le_max_right _ _
      maxFiles_pos := Nat.lt_of_lt_of_le Nat.one_pos (Nat.le_max_right _ _)
      writer_path := fun _ absent => absurd absent (Option.not_mem_none _) }
    files

section Writer

variable (logger : FileConnectionLogger Path) (files : Files Path)

@[simp] theorem path_closeWriter : (closeWriter logger files).1.path = logger.path := rfl

@[simp] theorem maxFiles_closeWriter : (closeWriter logger files).1.maxFiles = logger.maxFiles := rfl

@[simp] theorem pending_closeWriter : (closeWriter logger files).1.pending = logger.pending := rfl

@[simp] theorem writer_closeWriter : (closeWriter logger files).1.writer = none := rfl

theorem closeWriter_self {content : List UInt8} (current : files logger.path = some content) :
    (closeWriter logger files).2 logger.path = some (content ++ logger.buffered) := by
  unfold closeWriter buffered
  cases found : logger.writer with
  | none => simp [current]
  | some writer =>
      have same : writer.path = logger.path := logger.writer_path writer found
      simp only [BufWriter.flush, Option.map_some, Option.getD_some]
      rw [← same, BufWriter.flushBuf_self, same, current]
      by_cases empty : writer.buffer = [] <;> simp [empty]

theorem closeWriter_of_ne {other : Path} (apart : other ≠ logger.path) :
    (closeWriter logger files).2 other = files other := by
  unfold closeWriter
  cases found : logger.writer with
  | none => rfl
  | some writer => exact BufWriter.flushBuf_of_ne writer files (logger.writer_path writer found ▸ apart)

@[simp] theorem path_openFile : (openFile logger files).1.path = logger.path := rfl

@[simp] theorem pending_openFile : (openFile logger files).1.pending = logger.pending := rfl

@[simp] theorem writer_openFile :
    (openFile logger files).1.writer = some (BufWriter.withCapacity 8192 logger.path) := rfl

theorem openFile_files_of_closed (closed : logger.writer = none) :
    (openFile logger files).2 = openAppend files logger.path := by
  simp only [openFile, closeWriter, closed]

end Writer

/-! ## Secure deletion -/

def zeros : List UInt8 := List.replicate 4096 0

def passPattern (pass : Nat) : List UInt8 :=
  (List.range 4096).map fun i => UInt8.ofNat ((i * 90 + pass) % 256)

def passBytes (chunk : List UInt8) (remaining : Nat) : List UInt8 :=
  if _more : 0 < remaining then
    chunk.take (min remaining 4096) ++ passBytes chunk (remaining - min remaining 4096)
  else []
termination_by remaining
decreasing_by omega

def passChunks : List (List UInt8) :=
  (List.range 3).flatMap fun pass => zeros :: if pass < 2 then [passPattern pass] else []

/-- `secure_delete_file`: a missing file is left alone and an empty one removed; any
other is overwritten by every pass and then removed. -/
def secureDeleteFile (files : Files Path) (path : Path) : Files Path :=
  match files path with
  | none => files
  | some content =>
      if content.length = 0 then removeFile files path
      else
        let overwritten := passChunks.foldl
          (fun files chunk => writeAtStart files path (passBytes chunk content.length)) files
        removeFile overwritten path

theorem secureDeleteFile_eq (files : Files Path) (path : Path) :
    secureDeleteFile files path = removeFile files path := by
  have overwritten : ∀ (chunks : List (List UInt8)) (files : Files Path) (size : Nat),
      removeFile (chunks.foldl (fun files chunk => writeAtStart files path (passBytes chunk size)) files) path =
        removeFile files path := by
    intro chunks
    induction chunks with
    | nil => intro files size; rfl
    | cons chunk chunks ih =>
        intro files size
        rw [List.foldl_cons, ih, removeFile_writeAtStart]
  cases present : files path with
  | none =>
      simp only [secureDeleteFile, present]
      exact (removeFile_of_none files present).symm
  | some content =>
      simp only [secureDeleteFile, present]
      split
      · rfl
      · exact overwritten passChunks files content.length

/-! ## Rotation -/

def rotateStep (logger : FileConnectionLogger Path) (files : Files Path) (i : Nat) : Files Path :=
  let source := if i = 1 then logger.path else logger.generation withExtension (i - 1)
  let target := logger.generation withExtension i
  if isFile files source then
    let files := if isFile files target && logger.secureDelete then secureDeleteFile files target else files
    -- `fs::rename(..).await.ok()`
    rename files source target
  else files

def rotateGenerations (logger : FileConnectionLogger Path) (files : Files Path) : Files Path :=
  (List.range' 1 (logger.maxFiles - 1)).reverse.foldl (rotateStep withExtension logger) files

def removeOldest (logger : FileConnectionLogger Path) (files : Files Path) : Files Path :=
  let oldest := logger.generation withExtension logger.maxFiles
  if isFile files oldest then
    if logger.secureDelete then secureDeleteFile files oldest else removeFile files oldest
  else files

/-- `rotate_if_needed`: nothing while the log is missing or smaller than the limit;
otherwise the current file is closed, the generations moved up, the oldest deleted and
the log opened again. -/
def rotateIfNeeded (logger : FileConnectionLogger Path) (files : Files Path) : FileConnectionLogger Path × Files Path :=
  match files logger.path with
  | none => (logger, files)
  | some content =>
      if content.length < logger.maxSize then (logger, files)
      else
        let closed := closeWriter logger files
        openFile closed.1 (removeOldest withExtension logger (rotateGenerations withExtension logger closed.2))

def liveGeneration (logger : FileConnectionLogger Path) (i : Nat) : Path :=
  if i = 0 then logger.path else logger.generation withExtension i

section Rotation

variable (logger : FileConnectionLogger Path) (files : Files Path)

omit [DecidableEq Path] in
theorem liveGeneration_zero : liveGeneration withExtension logger 0 = logger.path := rfl

omit [DecidableEq Path] in
theorem generation_eq_live {i : Nat} (positive : 0 < i) :
    logger.generation withExtension i = liveGeneration withExtension logger i := by
  rw [liveGeneration, if_neg (Nat.pos_iff_ne_zero.mp positive)]

theorem removeOldest_eq :
    removeOldest withExtension logger files = removeFile files (logger.generation withExtension logger.maxFiles) := by
  simp only [removeOldest]
  split
  · split
    · exact secureDeleteFile_eq files _
    · rfl
  · rename_i absent
    exact (removeFile_of_none files (by simpa [isFile] using absent)).symm

theorem rotateIfNeeded_of_short (short : ((files logger.path).getD []).length < logger.maxSize) :
    rotateIfNeeded withExtension logger files = (logger, files) := by
  unfold rotateIfNeeded
  cases found : files logger.path with
  | none => rfl
  | some content =>
      rw [found, Option.getD_some] at short
      exact if_pos short

theorem rotateIfNeeded_of_full {content : List UInt8} (current : files logger.path = some content)
    (full : logger.maxSize ≤ content.length) :
    rotateIfNeeded withExtension logger files =
      openFile (closeWriter logger files).1 (removeFile (rotateGenerations withExtension logger
        (closeWriter logger files).2) (logger.generation withExtension logger.maxFiles)) := by
  rw [rotateIfNeeded, ← removeOldest_eq]
  simp only [current, if_neg (Nat.not_lt.mpr full)]

theorem rotateIfNeeded_files_of_full {content : List UInt8} (current : files logger.path = some content)
    (full : logger.maxSize ≤ content.length) :
    (rotateIfNeeded withExtension logger files).2 =
      openAppend (removeFile (rotateGenerations withExtension logger (closeWriter logger files).2)
        (logger.generation withExtension logger.maxFiles)) logger.path := by
  rw [rotateIfNeeded_of_full withExtension logger files current full]
  exact openFile_files_of_closed _ _ rfl

theorem rotateIfNeeded_fst (opened : logger.writer.isSome) :
    (rotateIfNeeded withExtension logger files).1.writer.isSome ∧
      (rotateIfNeeded withExtension logger files).1.pending = logger.pending := by
  unfold rotateIfNeeded
  split
  · exact ⟨opened, rfl⟩
  · split
    · exact ⟨opened, rfl⟩
    · -- the log is opened again, under a new writer
      exact ⟨rfl, rfl⟩

theorem rotateStep_eq (distinct : Function.Injective (liveGeneration withExtension logger)) {i : Nat} (positive : 0 < i) :
    rotateStep withExtension logger files i =
      rename files (liveGeneration withExtension logger (i - 1)) (liveGeneration withExtension logger i) := by
  have source : (if i = 1 then logger.path else logger.generation withExtension (i - 1)) =
      liveGeneration withExtension logger (i - 1) := by
    by_cases first : i = 1
    · subst first
      rfl
    · rw [if_neg first, generation_eq_live withExtension logger (by omega)]
  have apart : liveGeneration withExtension logger (i - 1) ≠ liveGeneration withExtension logger i :=
    distinct.ne (by omega)
  unfold rotateStep
  simp only [source, generation_eq_live withExtension logger positive]
  split
  · rename_i present
    split
    · rw [secureDeleteFile_eq, rename_removeFile_dst files apart present]
    · rfl
  · rename_i absent
    exact (rename_of_not_isFile files (by simpa using absent)).symm

theorem rotateGenerations_eq (distinct : Function.Injective (liveGeneration withExtension logger)) :
    rotateGenerations withExtension logger files =
      shiftUp (liveGeneration withExtension logger) 0 (logger.maxFiles - 1) files := by
  unfold rotateGenerations
  generalize logger.maxFiles - 1 = count
  induction count generalizing files with
  | zero => rfl
  | succ count ih =>
      have turn : rotateStep withExtension logger files (1 + 1 * count) =
          rename files (liveGeneration withExtension logger (0 + count))
            (liveGeneration withExtension logger (0 + count + 1)) := by
        rw [rotateStep_eq withExtension logger files distinct (by omega)]
        congr 2 <;> omega
      rw [List.range'_concat, List.reverse_append, List.reverse_singleton, List.singleton_append,
        List.foldl_cons, turn, ih, shiftUp_succ]

/-! ### A full log with one file -/

/-- A logger with one file rotates a full log without moving it: the loop
`for i in (1..1).rev()` has no turn, so the log keeps its contents, with the buffer
written after them, and generation 1 is deleted. -/
theorem single_file_rotation_keeps_full_log (logger : FileConnectionLogger Path) (files : Files Path)
    (content : List UInt8) (single : logger.maxFiles = 1) (current : files logger.path = some content)
    (full : logger.maxSize ≤ content.length) (apart : logger.generation withExtension 1 ≠ logger.path) :
    (rotateIfNeeded withExtension logger files).2 logger.path = some (content ++ logger.buffered) ∧
      content ≠ [] ∧ (rotateIfNeeded withExtension logger files).2 (logger.generation withExtension 1) = none := by
  have unmoved : rotateGenerations withExtension logger (closeWriter logger files).2 = (closeWriter logger files).2 := by
    rw [rotateGenerations, single]
    rfl
  have after := rotateIfNeeded_files_of_full withExtension logger files current full
  rw [unmoved, single] at after
  refine ⟨?_, ?_, ?_⟩
  · rw [after, openAppend_self, removeFile_of_ne _ (Ne.symm apart), closeWriter_self logger files current]
    rfl
  · -- the limit is at least 1 MiB, and the log has reached it
    have limit := logger.maxSize_ge
    intro empty
    rw [empty, List.length_nil] at full
    omega
  · rw [after, openAppend_of_ne _ apart, removeFile_self]

theorem maxFiles_new_of_le_one (path : Path) (maxSize maxFiles : Nat) (secureDelete : Bool) (files : Files Path)
    (few : maxFiles ≤ 1) : (new path maxSize maxFiles secureDelete files).1.maxFiles = 1 := by
  show max maxFiles 1 = 1
  omega

/-- A logger made with no file to keep, its log at `conn.log` holding 1 MiB. -/
theorem single_file_rotation_keeps_full_log_at_one_mebibyte :
    let logger : FileConnectionLogger String := (new "conn.log" 0 0 false fun _ => none).1
    let files : Files String := fun path => if path = "conn.log" then some (List.replicate 1048576 0) else none
    logger.maxFiles = 1 ∧ files logger.path = some (List.replicate 1048576 0) ∧
      logger.maxSize ≤ (List.replicate 1048576 (0 : UInt8)).length ∧
      logger.generation FileSystem.withExtension 1 ≠ logger.path ∧
      (rotateIfNeeded FileSystem.withExtension logger files).2 logger.path =
          some (List.replicate 1048576 0 ++ logger.buffered) ∧
        List.replicate 1048576 (0 : UInt8) ≠ [] ∧
        (rotateIfNeeded FileSystem.withExtension logger files).2
          (logger.generation FileSystem.withExtension 1) = none := by
  intro logger files
  have single : logger.maxFiles = 1 := maxFiles_new_of_le_one _ _ _ _ _ (Nat.zero_le 1)
  have current : files logger.path = some (List.replicate 1048576 0) := if_pos rfl
  have full : logger.maxSize ≤ (List.replicate 1048576 (0 : UInt8)).length := by
    rw [List.length_replicate]
    exact Nat.le_refl _
  have apart : logger.generation FileSystem.withExtension 1 ≠ logger.path := by
    decide
  exact ⟨single, current, full, apart,
    single_file_rotation_keeps_full_log _ logger files _ single current full apart⟩

/-! ### A full log with two files or more -/

section Shift

variable (logger : FileConnectionLogger Path) (files : Files Path)
  (distinct : Function.Injective (liveGeneration withExtension logger)) (several : 2 ≤ logger.maxFiles)
  {content : List UInt8} (current : files logger.path = some content) (full : logger.maxSize ≤ content.length)

omit [DecidableEq Path] in
include distinct in
theorem liveGeneration_ne_path {j : Nat} (positive : 0 < j) : liveGeneration withExtension logger j ≠ logger.path := by
  rw [← liveGeneration_zero withExtension logger]
  exact distinct.ne (by omega)

include distinct several current full

theorem rotateIfNeeded_generation {j : Nat} (positive : 0 < j) (notOldest : j ≠ logger.maxFiles) :
    (rotateIfNeeded withExtension logger files).2 (liveGeneration withExtension logger j) =
      shiftUp (liveGeneration withExtension logger) 0 (logger.maxFiles - 2 + 1) (closeWriter logger files).2
        (liveGeneration withExtension logger j) := by
  have count : logger.maxFiles - 1 = logger.maxFiles - 2 + 1 := by omega
  rw [rotateIfNeeded_files_of_full withExtension logger files current full,
    openAppend_of_ne _ (liveGeneration_ne_path withExtension logger distinct positive),
    removeFile_of_ne _ (by rw [generation_eq_live withExtension logger (by omega)]; exact distinct.ne notOldest),
    rotateGenerations_eq withExtension logger _ distinct, count]

theorem rotateIfNeeded_live : (rotateIfNeeded withExtension logger files).2 logger.path = some [] := by
  have count : logger.maxFiles - 1 = logger.maxFiles - 2 + 1 := by omega
  have oldest : logger.path ≠ logger.generation withExtension logger.maxFiles := by
    rw [generation_eq_live withExtension logger (by omega), ← liveGeneration_zero withExtension logger]
    exact distinct.ne (by omega)
  rw [rotateIfNeeded_files_of_full withExtension logger files current full, openAppend_self,
    removeFile_of_ne _ oldest, rotateGenerations_eq withExtension logger _ distinct, count,
    ← liveGeneration_zero withExtension logger, shiftUp_bottom _ distinct]
  rfl

theorem rotateIfNeeded_moved {j : Nat} (positive : 0 < j) (below : j < logger.maxFiles)
    (present : isFile (closeWriter logger files).2 (liveGeneration withExtension logger (j - 1)) = true) :
    (rotateIfNeeded withExtension logger files).2 (liveGeneration withExtension logger j) =
      (closeWriter logger files).2 (liveGeneration withExtension logger (j - 1)) := by
  rw [rotateIfNeeded_generation withExtension logger files distinct several current full positive (by omega)]
  exact shiftUp_above _ distinct 0 _ _ j positive (by omega) present

theorem rotateIfNeeded_first :
    (rotateIfNeeded withExtension logger files).2 (logger.generation withExtension 1) =
      some (content ++ logger.buffered) := by
  have closed := closeWriter_self logger files current
  rw [← liveGeneration_zero withExtension logger] at closed
  rw [generation_eq_live withExtension logger Nat.one_pos,
    rotateIfNeeded_moved withExtension logger files distinct several current full Nat.one_pos (by omega)
      (by simp [isFile, closed])]
  exact closed

theorem rotateIfNeeded_shifted {i : Nat} (positive : 0 < i) (below : i < logger.maxFiles - 1)
    (present : isFile files (logger.generation withExtension i) = true) :
    (rotateIfNeeded withExtension logger files).2 (logger.generation withExtension (i + 1)) =
      files (logger.generation withExtension i) := by
  have kept : (closeWriter logger files).2 (liveGeneration withExtension logger i) =
      files (liveGeneration withExtension logger i) :=
    closeWriter_of_ne logger files (liveGeneration_ne_path withExtension logger distinct positive)
  rw [generation_eq_live withExtension logger positive] at present ⊢
  rw [generation_eq_live withExtension logger (by omega),
    rotateIfNeeded_moved withExtension logger files distinct several current full (by omega) (by omega)
      (by rw [Nat.add_sub_cancel, isFile, kept]; exact present),
    Nat.add_sub_cancel, kept]

theorem rotateIfNeeded_oldest :
    (rotateIfNeeded withExtension logger files).2 (logger.generation withExtension logger.maxFiles) = none := by
  have apart : logger.generation withExtension logger.maxFiles ≠ logger.path := by
    rw [generation_eq_live withExtension logger (by omega), ← liveGeneration_zero withExtension logger]
    exact distinct.ne (by omega)
  rw [rotateIfNeeded_files_of_full withExtension logger files current full, openAppend_of_ne _ apart, removeFile_self]

theorem rotateIfNeeded_beyond {j : Nat} (past : logger.maxFiles < j) :
    (rotateIfNeeded withExtension logger files).2 (logger.generation withExtension j) =
      files (logger.generation withExtension j) := by
  rw [generation_eq_live withExtension logger (by omega),
    rotateIfNeeded_generation withExtension logger files distinct several current full (by omega) (by omega),
    shiftUp_of_ne _ 0 _ _ _ fun k _ high => distinct.ne (by omega)]
  exact closeWriter_of_ne logger files (liveGeneration_ne_path withExtension logger distinct (by omega))

end Shift

end Rotation

/-! ## Logging -/

variable (toJson : ConnectionEvent → String)

/-- `write_event`: `writeln!` writes the JSON text and then the line feed, as two
writes; without a writer the event is refused. -/
def writeEvent (logger : FileConnectionLogger Path) (files : Files Path) (event : ConnectionEvent) :
    Except String (FileConnectionLogger Path × Files Path) :=
  match found : logger.writer with
  | none => .error "Log file not open"
  | some writer =>
      let text := writer.writeAll files (RustStr.asBytes (toJson event))
      let line := text.1.writeAll text.2 (RustStr.asBytes "\n")
      have same : line.1.path = logger.path := by
        simp only [line, text, BufWriter.path_writeAll]
        exact logger.writer_path writer found
      .ok ({ logger.withWriter line.1 same with pending := logger.pending + 1 }, line.2)

/-- `flush`: the buffer is written out and the pending count cleared. -/
def flush (logger : FileConnectionLogger Path) (files : Files Path) : FileConnectionLogger Path × Files Path :=
  match found : logger.writer with
  | none => (logger, files)
  | some writer =>
      have same : (writer.flush files).1.path = logger.path := by
        simp only [BufWriter.flush, BufWriter.path_flushBuf]
        exact logger.writer_path writer found
      ({ logger.withWriter (writer.flush files).1 same with pending := 0 }, (writer.flush files).2)

def recordTimestamp (logger : FileConnectionLogger Path) (timestamp : DateTime) : FileConnectionLogger Path :=
  { logger with
    firstEvent := if logger.firstEvent.isNone then some timestamp else logger.firstEvent
    lastEvent := some timestamp }

/-- `log`: the timestamps are recorded, the log rotated if it is full, the event
written and counted, and the writer flushed once 100 events are pending. -/
def log (logger : FileConnectionLogger Path) (files : Files Path) (event : ConnectionEvent) :
    Except String Unit × (FileConnectionLogger Path × Files Path) :=
  let rotated := rotateIfNeeded withExtension (logger.recordTimestamp event.timestamp) files
  match writeEvent toJson rotated.1 rotated.2 event with
  | .error message => (.error message, rotated)
  | .ok written =>
      let counted := { written.1 with totalLogged := written.1.totalLogged + 1 }
      if 100 ≤ counted.pending then (.ok (), flush counted written.2) else (.ok (), (counted, written.2))

/-- `stats`: the storage is the size of the log file, when there is one. -/
def stats (logger : FileConnectionLogger Path) (files : Files Path) : LoggerStats where
  eventsLogged := logger.totalLogged
  pendingEvents := logger.pending
  storageBytes := (files logger.path).map fun content => UInt64.ofNat content.length
  oldestEvent := logger.firstEvent
  newestEvent := logger.lastEvent

section Calls

variable (logger : FileConnectionLogger Path) (files : Files Path)

theorem writeEvent_of_open {writer : BufWriter Path} (found : logger.writer = some writer) (event : ConnectionEvent) :
    ∃ written, writeEvent toJson logger files event = .ok written ∧ written.1.writer.isSome ∧
      written.1.pending = logger.pending + 1 := by
  unfold writeEvent
  split
  · rename_i absent
    rw [found] at absent
    cases absent
  · exact ⟨_, rfl, rfl, rfl⟩

/-- What holds between calls: the log is open, and fewer than 100 events wait for a flush. -/
structure Ready (logger : FileConnectionLogger Path) : Prop where
  opened : logger.writer.isSome
  fewPending : logger.pending.toNat < 100

theorem ready_flush (opened : logger.writer.isSome) : (flush logger files).1.Ready := by
  obtain ⟨writer, found⟩ := Option.isSome_iff_exists.mp opened
  unfold flush
  split
  · rename_i absent
    rw [found] at absent
    cases absent
  · exact ⟨rfl, show (0 : UInt64).toNat < 100 by decide⟩

theorem ready_new (path : Path) (maxSize maxFiles : Nat) (secureDelete : Bool) :
    (new path maxSize maxFiles secureDelete files).1.Ready :=
  ⟨rfl, by show (0 : UInt64).toNat < 100; decide⟩

theorem ready_rotateIfNeeded (ready : logger.Ready) : (rotateIfNeeded withExtension logger files).1.Ready := by
  obtain ⟨opened, samePending⟩ := rotateIfNeeded_fst withExtension logger files ready.opened
  exact ⟨opened, samePending ▸ ready.fewPending⟩

theorem log_of_ready (ready : logger.Ready) (event : ConnectionEvent) :
    (log withExtension toJson logger files event).1 = .ok () ∧
      (log withExtension toJson logger files event).2.1.Ready := by
  have stamped : (logger.recordTimestamp event.timestamp).Ready := ⟨ready.opened, ready.fewPending⟩
  have rotated := ready_rotateIfNeeded withExtension _ files stamped
  obtain ⟨writer, found⟩ := Option.isSome_iff_exists.mp rotated.opened
  obtain ⟨written, wrote, writtenOpen, writtenPending⟩ := writeEvent_of_open toJson _
    (rotateIfNeeded withExtension (logger.recordTimestamp event.timestamp) files).2 found event
  have counted : written.1.pending.toNat = (rotateIfNeeded withExtension (logger.recordTimestamp event.timestamp)
      files).1.pending.toNat + 1 := by
    have below := rotated.fewPending
    rw [writtenPending, UInt64.toNat_add, UInt64.toNat_one]
    omega
  simp only [log, wrote]
  split
  · -- a hundred events are pending: the flush clears them
    exact ⟨rfl, ready_flush _ written.2 writtenOpen⟩
  · rename_i few
    rw [UInt64.le_iff_toNat_le] at few
    exact ⟨rfl, writtenOpen, by simpa using few⟩

/-- A call to the logger through `ConnectionLogger`. -/
inductive Call
  | log (event : ConnectionEvent)
  | flush
  | cleanup

def call (state : FileConnectionLogger Path × Files Path) : Call → Except String Unit × (FileConnectionLogger Path × Files Path)
  | .log event => log withExtension toJson state.1 state.2 event
  | .flush => (.ok (), flush state.1 state.2)
  | .cleanup => (.ok (), rotateIfNeeded withExtension state.1 state.2)

theorem call_of_ready (state : FileConnectionLogger Path × Files Path) (ready : state.1.Ready) (request : Call) :
    (call withExtension toJson state request).1 = .ok () ∧ (call withExtension toJson state request).2.1.Ready := by
  cases request with
  | log event => exact log_of_ready withExtension toJson state.1 state.2 ready event
  | flush => exact ⟨rfl, ready_flush state.1 state.2 ready.opened⟩
  | cleanup => exact ⟨rfl, ready_rotateIfNeeded withExtension state.1 state.2 ready⟩

theorem run_of_new (path : Path) (maxSize maxFiles : Nat) (secureDelete : Bool) (calls : List Call) :
    (∀ answer ∈ (Machine.run (call withExtension toJson) (new path maxSize maxFiles secureDelete files) calls).1,
        answer = .ok ()) ∧
      (Machine.run (call withExtension toJson) (new path maxSize maxFiles secureDelete files) calls).2.1.Ready := by
  have preserved : ∀ (state : FileConnectionLogger Path × Files Path) request, state.1.Ready →
      (call withExtension toJson state request).2.1.Ready :=
    fun state request ready => (call_of_ready withExtension toJson state ready request).2
  exact ⟨Machine.forall_mem_run_of_invariant _ (fun state : FileConnectionLogger Path × Files Path => state.1.Ready) _
      preserved
      (fun state request ready => (call_of_ready withExtension toJson state ready request).1)
      (ready_new files path maxSize maxFiles secureDelete) calls,
    Machine.run_invariant _ (fun state : FileConnectionLogger Path × Files Path => state.1.Ready) preserved (ready_new files path maxSize maxFiles secureDelete)
      calls⟩

end Calls

end FileConnectionLogger

end CoreVpn.ConnectionLog
