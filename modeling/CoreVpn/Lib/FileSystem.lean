import Mathlib.Logic.Function.Basic
import Mathlib.Data.List.Range

/-!
# A file system as a map from paths to contents

The file system is what each path holds: the bytes of a file, or nothing. The calls
of `std::fs` and `tokio::fs` that the logging code makes are functions on it, with no
I/O error: `rename`, which replaces its target and does nothing when the source is
missing; `removeFile`; `openAppend`, an `OpenOptions` with `create` and `append`; and
`append`, a write through a handle opened that way. Each has its read-after lemmas.

Rotation moves generations of a log with a descending loop of renames, `shiftUp`.
Generation `a` ends empty (`shiftUp_bottom`), each generation above it holds what the
one below held (`shiftUp_middle`), the top one keeps its old contents when the one
below it was missing (`shiftUp_top`), and nothing else changes (`shiftUp_of_ne`).

`BufWriter` is the standard library's buffered writer over such a handle: what the
file holds followed by what is buffered only ever grows by what was written
(`writeAll_contents`). `readToString` reads a file back as text, and a file that holds
a text's UTF-8 bytes reads as that text (`readToString_of_utf8`).
-/

namespace FileSystem

set_option autoImplicit false

abbrev Files (Path : Type) := Path → Option (List UInt8)

/-! ## `Path::with_extension` on Unix paths -/

def dropTrailing : List Char → List Char
  | '/' :: rest => dropTrailing rest
  | '.' :: tail =>
      match tail with
      | '/' :: _ => dropTrailing tail
      | _ => '.' :: tail
  | reversed => reversed

/-- `file_stem` of a file name: the text before its last `.`, or the whole name when it
has no `.` or only a leading one. -/
def fileStem (name : List Char) : List Char :=
  let before := (name.reverse.dropWhile (· ≠ '.')).drop 1
  if '.' ∉ name ∨ before = [] then name else before.reverse

/-- `Path::with_extension`: the path up to the end of its file name's stem, then `.` and
the extension when it is not empty; a path with no file name (empty, `/`, `.` or `..`
last) is kept as it is. -/
def withExtension (path extension : String) : String :=
  let trimmed := dropTrailing path.toList.reverse
  let name := (trimmed.takeWhile (· ≠ '/')).reverse
  let directory := (trimmed.dropWhile (· ≠ '/')).reverse
  if name = [] ∨ name = ['.'] ∨ name = ['.', '.'] then path
  else
    String.ofList (directory ++ fileStem name ++ (if extension.isEmpty then [] else '.' :: extension.toList))

example : withExtension "conn.log" "log.1" = "conn.log.1" := by decide

example : withExtension "/var/log/.hidden" "1" = "/var/log/.hidden.1" := by decide

variable {Path : Type} [DecidableEq Path]

def isFile (files : Files Path) (path : Path) : Bool := (files path).isSome

def removeFile (files : Files Path) (path : Path) : Files Path := Function.update files path none

/-- `rename`: the target, if any, is replaced; a missing source changes nothing. -/
def rename (files : Files Path) (src dst : Path) : Files Path :=
  if src = dst then files
  else
    match files src with
    | some content => Function.update (Function.update files src none) dst (some content)
    | none => files

def openAppend (files : Files Path) (path : Path) : Files Path :=
  match files path with
  | some _ => files
  | none => Function.update files path (some [])

def append (files : Files Path) (path : Path) (bytes : List UInt8) : Files Path :=
  Function.update files path (some ((files path).getD [] ++ bytes))

def writeAtStart (files : Files Path) (path : Path) (bytes : List UInt8) : Files Path :=
  Function.update files path (some (bytes ++ ((files path).getD []).drop bytes.length))

/-- The kinds of error `fs::read_to_string` reports. -/
inductive ReadError
  /-- `ErrorKind::NotFound`: no file at the path -/
  | notFound
  /-- `ErrorKind::InvalidData`: the bytes are not UTF-8 -/
  | invalidData
  deriving DecidableEq, Repr

/-- `fs::read_to_string`: the file's bytes as UTF-8 text. -/
def readToString (files : Files Path) (path : Path) : Except ReadError String :=
  match files path with
  | none => .error .notFound
  | some bytes =>
      match String.fromUTF8? ⟨bytes.toArray⟩ with
      | some text => .ok text
      | none => .error .invalidData

/-! ## Reading after a call -/

section Read

variable (files : Files Path)

@[simp] theorem removeFile_self (path : Path) : removeFile files path path = none := by
  simp [removeFile]

theorem removeFile_of_ne {path other : Path} (apart : other ≠ path) : removeFile files path other = files other := by
  simp [removeFile, apart]

omit [DecidableEq Path] in
theorem readToString_of_utf8 {path : Path} {text : String} (found : files path = some text.toUTF8.data.toList) :
    readToString files path = .ok text := by
  have decoded : String.fromUTF8? ⟨text.toUTF8.data.toList.toArray⟩ = some text := by
    have valid : ByteArray.IsValidUTF8 ⟨text.toUTF8.data⟩ := text.isValidUTF8
    rw [Array.toArray_toList, String.fromUTF8?, dif_pos valid]
    rfl
  rw [readToString, found]
  simp only [decoded]

theorem removeFile_of_none {path : Path} (absent : files path = none) : removeFile files path = files := by
  rw [removeFile, Function.update_eq_self_iff, absent]

theorem removeFile_writeAtStart (path : Path) (bytes : List UInt8) :
    removeFile (writeAtStart files path bytes) path = removeFile files path := by
  rw [removeFile, writeAtStart, Function.update_idem]
  rfl

@[simp] theorem append_self (path : Path) (bytes : List UInt8) :
    append files path bytes path = some ((files path).getD [] ++ bytes) := by
  simp [append]

theorem append_of_ne {path other : Path} (bytes : List UInt8) (apart : other ≠ path) :
    append files path bytes other = files other := by
  simp [append, apart]

@[simp] theorem openAppend_self (path : Path) : openAppend files path path = some ((files path).getD []) := by
  unfold openAppend
  cases present : files path <;> simp [present]

theorem openAppend_of_ne {path other : Path} (apart : other ≠ path) : openAppend files path other = files other := by
  unfold openAppend
  cases files path <;> simp [apart]

theorem rename_src {src dst : Path} (apart : src ≠ dst) : rename files src dst src = none := by
  unfold rename
  cases present : files src <;> simp [apart, present]

theorem rename_dst {src dst : Path} (apart : src ≠ dst) :
    rename files src dst dst = (files src).or (files dst) := by
  unfold rename
  cases files src <;> simp [apart]

theorem rename_of_ne {src dst other : Path} (notSrc : other ≠ src) (notDst : other ≠ dst) :
    rename files src dst other = files other := by
  unfold rename
  split
  · rfl
  · cases files src <;> simp [notSrc, notDst]

theorem rename_of_not_isFile {src dst : Path} (absent : isFile files src = false) : rename files src dst = files := by
  have missing : files src = none := by simpa [isFile] using absent
  unfold rename
  split
  · rfl
  · rw [missing]

theorem rename_removeFile_dst {src dst : Path} (apart : src ≠ dst) (present : isFile files src = true) :
    rename (removeFile files dst) src dst = rename files src dst := by
  obtain ⟨content, found⟩ := Option.isSome_iff_exists.mp present
  have kept : removeFile files dst src = some content := by rw [removeFile_of_ne files apart, found]
  rw [rename, rename, if_neg apart, if_neg apart, kept, found]
  simp only [removeFile]
  rw [Function.update_comm (Ne.symm apart), Function.update_idem]

end Read

/-! ## Moving generations -/

def shiftUp (gen : Nat → Path) (a count : Nat) (files : Files Path) : Files Path :=
  (List.range' a count).reverse.foldl (fun files i => rename files (gen i) (gen (i + 1))) files

section Shift

variable (gen : Nat → Path) (distinct : Function.Injective gen) (a : Nat)

@[simp] theorem shiftUp_zero (files : Files Path) : shiftUp gen a 0 files = files := rfl

theorem shiftUp_succ (count : Nat) (files : Files Path) :
    shiftUp gen a (count + 1) files = shiftUp gen a count (rename files (gen (a + count)) (gen (a + count + 1))) := by
  rw [shiftUp, List.range'_concat, Nat.one_mul, List.reverse_append, List.reverse_singleton,
    List.singleton_append, List.foldl_cons]
  rfl

theorem shiftUp_of_ne (count : Nat) (files : Files Path) (path : Path)
    (outside : ∀ j, a ≤ j → j ≤ a + count → path ≠ gen j) :
    shiftUp gen a count files path = files path := by
  induction count generalizing files with
  | zero => rfl
  | succ count ih =>
      rw [shiftUp_succ, ih _ fun j low high => outside j low (by omega)]
      exact rename_of_ne files (outside _ (by omega) (by omega)) (outside _ (by omega) (by omega))

include distinct

omit [DecidableEq Path] in
theorem gen_ne_of_ne {i j : Nat} (apart : i ≠ j) : gen i ≠ gen j := fun same => apart (distinct same)

theorem shiftUp_top (count : Nat) (files : Files Path) :
    shiftUp gen a (count + 1) files (gen (a + count + 1)) = (files (gen (a + count))).or (files (gen (a + count + 1))) := by
  rw [shiftUp_succ, shiftUp_of_ne gen a count _ _ fun j _ high => gen_ne_of_ne gen distinct (by omega)]
  exact rename_dst files (gen_ne_of_ne gen distinct (by omega))

theorem shiftUp_bottom (count : Nat) (files : Files Path) : shiftUp gen a (count + 1) files (gen a) = none := by
  induction count generalizing files with
  | zero => exact rename_src files (gen_ne_of_ne gen distinct (by omega))
  | succ count ih => rw [shiftUp_succ, ih]

theorem shiftUp_middle (count : Nat) (files : Files Path) (j : Nat) (above : a < j) (below : j ≤ a + count) :
    shiftUp gen a (count + 1) files (gen j) = files (gen (j - 1)) := by
  induction count generalizing files with
  | zero => omega
  | succ count ih =>
      rw [shiftUp_succ, ← Nat.add_assoc]
      by_cases top : j = a + count + 1
      · -- `gen j` is the top of the rest of the loop, and the step emptied its source
        subst top
        rw [shiftUp_top gen distinct a count, rename_src files (gen_ne_of_ne gen distinct (by omega)),
          Option.or_none, rename_of_ne files (gen_ne_of_ne gen distinct (by omega))
            (gen_ne_of_ne gen distinct (by omega))]
        rfl
      · rw [ih _ (by omega), rename_of_ne files (gen_ne_of_ne gen distinct (by omega))
          (gen_ne_of_ne gen distinct (by omega))]

theorem shiftUp_above (count : Nat) (files : Files Path) (j : Nat) (above : a < j) (below : j ≤ a + count + 1)
    (present : isFile files (gen (j - 1)) = true) :
    shiftUp gen a (count + 1) files (gen j) = files (gen (j - 1)) := by
  by_cases top : j = a + count + 1
  · -- at the top the old contents survive only when nothing was below
    subst top
    obtain ⟨content, found⟩ := Option.isSome_iff_exists.mp present
    rw [shiftUp_top gen distinct a count, Nat.add_sub_cancel, ← Nat.add_sub_cancel (a + count) 1, found]
    rfl
  · exact shiftUp_middle gen distinct a count files j above (by omega)

end Shift

/-! ## Buffered writes -/

/-- `std::io::BufWriter` over a handle opened for appending at `path`. -/
structure BufWriter (Path : Type) where
  path : Path
  capacity : Nat
  buffer : List UInt8

namespace BufWriter

def withCapacity (capacity : Nat) (path : Path) : BufWriter Path := ⟨path, capacity, []⟩

/-- `flush_buf`: the buffer is written out, when there is one. -/
def flushBuf (writer : BufWriter Path) (files : Files Path) : BufWriter Path × Files Path :=
  if writer.buffer.isEmpty then (writer, files)
  else ({ writer with buffer := [] }, append files writer.path writer.buffer)

/-- `Write::write_all`: bytes that fit in the spare capacity are buffered; otherwise
the buffer is written out first when the bytes do not fit beside it, and bytes as long
as the whole buffer go straight to the file. -/
def writeAll (writer : BufWriter Path) (files : Files Path) (bytes : List UInt8) : BufWriter Path × Files Path :=
  if bytes.length < writer.capacity - writer.buffer.length then
    ({ writer with buffer := writer.buffer ++ bytes }, files)
  else
    let flushed := if writer.capacity - writer.buffer.length < bytes.length then writer.flushBuf files
      else (writer, files)
    if writer.capacity ≤ bytes.length then (flushed.1, append flushed.2 writer.path bytes)
    else ({ flushed.1 with buffer := flushed.1.buffer ++ bytes }, flushed.2)

/-- `Write::flush`: the buffer is written out. -/
def flush (writer : BufWriter Path) (files : Files Path) : BufWriter Path × Files Path := writer.flushBuf files

def contents (writer : BufWriter Path) (files : Files Path) : List UInt8 :=
  (files writer.path).getD [] ++ writer.buffer

variable (writer : BufWriter Path) (files : Files Path)

@[simp] theorem path_flushBuf : (writer.flushBuf files).1.path = writer.path := by
  unfold flushBuf
  split <;> rfl

@[simp] theorem capacity_flushBuf : (writer.flushBuf files).1.capacity = writer.capacity := by
  unfold flushBuf
  split <;> rfl

@[simp] theorem buffer_flushBuf : (writer.flushBuf files).1.buffer = [] := by
  unfold flushBuf
  split
  · rename_i empty
    exact List.isEmpty_iff.mp empty
  · rfl

theorem flushBuf_self :
    (writer.flushBuf files).2 writer.path = if writer.buffer = [] then files writer.path
      else some ((files writer.path).getD [] ++ writer.buffer) := by
  unfold flushBuf
  by_cases empty : writer.buffer = [] <;> simp [empty]

theorem flushBuf_of_ne {other : Path} (apart : other ≠ writer.path) : (writer.flushBuf files).2 other = files other := by
  unfold flushBuf
  split
  · rfl
  · exact append_of_ne files _ apart

theorem contents_flushBuf : (writer.flushBuf files).1.contents (writer.flushBuf files).2 = writer.contents files := by
  simp only [contents, path_flushBuf, buffer_flushBuf, List.append_nil, flushBuf_self]
  split
  · rename_i empty
    simp [empty]
  · rfl

theorem isSome_flushBuf_self (present : (files writer.path).isSome) :
    ((writer.flushBuf files).2 writer.path).isSome := by
  rw [flushBuf_self]
  split
  · exact present
  · rfl

@[simp] theorem path_writeAll (bytes : List UInt8) : (writer.writeAll files bytes).1.path = writer.path := by
  unfold writeAll
  split
  · rfl
  · split <;> simp only [] <;> split <;> simp

@[simp] theorem capacity_writeAll (bytes : List UInt8) :
    (writer.writeAll files bytes).1.capacity = writer.capacity := by
  unfold writeAll
  split
  · rfl
  · split <;> simp only [] <;> split <;> simp

theorem writeAll_of_ne (bytes : List UInt8) {other : Path} (apart : other ≠ writer.path) :
    (writer.writeAll files bytes).2 other = files other := by
  unfold writeAll
  split
  · rfl
  · split <;> simp only [] <;> split <;>
      simp [append_of_ne _ _ apart, flushBuf_of_ne _ _ apart]

theorem isSome_writeAll_self (bytes : List UInt8) (present : (files writer.path).isSome) :
    ((writer.writeAll files bytes).2 writer.path).isSome := by
  unfold writeAll
  split
  · exact present
  · split <;> simp only [] <;> split <;> simp [isSome_flushBuf_self, present]

theorem writeAll_contents (bytes : List UInt8) :
    (writer.writeAll files bytes).1.contents (writer.writeAll files bytes).2 = writer.contents files ++ bytes := by
  have flushed := contents_flushBuf writer files
  simp only [contents, path_flushBuf, buffer_flushBuf, List.append_nil] at flushed
  unfold writeAll
  by_cases fits : bytes.length < writer.capacity - writer.buffer.length
  · simp [fits, contents]
  · by_cases spill : writer.capacity - writer.buffer.length < bytes.length <;>
      by_cases whole : writer.capacity ≤ bytes.length <;> simp only [fits, spill, whole, if_true, if_false]
    · -- the buffer went out first, then the bytes themselves
      simp [contents, flushed]
    · simp [contents, flushed]
    · -- the bytes fill the spare capacity and the whole capacity: the buffer or the bytes are empty
      have nothing : writer.buffer = [] ∨ bytes = [] := by
        rw [← List.length_eq_zero_iff, ← List.length_eq_zero_iff]
        omega
      rcases nothing with empty | empty <;> simp [contents, empty]
    · simp [contents]

end BufWriter

end FileSystem
