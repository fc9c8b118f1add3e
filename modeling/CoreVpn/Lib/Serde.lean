import CoreVpn.Lib.Wire

/-!
# The serde data model over a self-describing format

A value as a self-describing text format such as TOML holds it, and the rules by which
`#[derive(Serialize, Deserialize)]` writes a struct as a table and reads it back. A field
marked `skip_serializing` is not written, and an `Option` field that is `None` is left out
of the table. When a field is absent on reading, a `#[serde(default)]` field reads as its
default, an `Option` field as `None`, and any other field is the error
``missing field `name` ``. Keys the struct does not name are ignored.

A format is a printer and a parser that reads back every printed tree (`Format`). The
readers of the primitive types invert their writers (`readUnsigned_integer`,
`readArray_map`), and a field reads back what was written under its key (`field_cons_self`,
`field_cons_of_ne`).
-/

namespace Serde

set_option autoImplicit false

/-- A value of the data model, as a TOML document holds it. -/
inductive Value
  | boolean (value : Bool)
  | integer (value : Int)
  | string (value : String)
  | array (items : List Value)
  | table (entries : List (String × Value))

/-- A text format for value trees, with the round trip of its printer and parser. -/
structure Format where
  print : Value → String
  parse : String → Except String Value
  parse_print : ∀ tree, parse (print tree) = .ok tree

attribute [simp] Format.parse_print

/-! ## Error texts -/

def quoted (text : String) : String :=
  let escape : Char → List Char
    | '"' => ['\\', '"']
    | '\\' => ['\\', '\\']
    | '\n' => ['\\', 'n']
    | '\r' => ['\\', 'r']
    | '\t' => ['\\', 't']
    | c => [c]
  String.ofList ('"' :: text.toList.flatMap escape ++ ['"'])

def Value.unexpected : Value → String
  | .boolean value => "boolean `" ++ toString value ++ "`"
  | .integer value => "integer `" ++ toString value ++ "`"
  | .string value => "string " ++ quoted value
  | .array _ => "sequence"
  | .table _ => "map"

def invalidType (value : Value) (expected : String) : String :=
  "invalid type: " ++ value.unexpected ++ ", expected " ++ expected

def missingField (name : String) : String := "missing field `" ++ name ++ "`"

def oneOf (variants : List String) : String :=
  let named := variants.map fun variant => "`" ++ variant ++ "`"
  match named with
  | [] => "there are no variants"
  | [only] => "expected " ++ only
  | [first, second] => "expected " ++ first ++ " or " ++ second
  | _ => "expected one of " ++ ", ".intercalate named

def unknownVariant (tag : String) (variants : List String) : String :=
  "unknown variant `" ++ tag ++ "`, " ++ oneOf variants

/-! ## Readers of the primitive types -/

def readBool : Value → Except String Bool
  | .boolean value => .ok value
  | value => .error (invalidType value "a boolean")

def readString : Value → Except String String
  | .string value => .ok value
  | value => .error (invalidType value "a string")

def readUnsigned (bits : Nat) (name : String) : Value → Except String Nat
  | .integer value =>
      if 0 ≤ value ∧ value < 2 ^ bits then .ok value.toNat
      else .error ("invalid value: integer `" ++ toString value ++ "`, expected " ++ name)
  | value => .error (invalidType value name)

def readArray {α : Type} (read : Value → Except String α) : Value → Except String (List α)
  | .array items => items.mapM read
  | value => .error (invalidType value "a sequence")

def readTable (expected : String) : Value → Except String (List (String × Value))
  | .table entries => .ok entries
  | value => .error (invalidType value expected)

def readStringMap (value : Value) : Except String (List (String × String)) := do
  let entries ← readTable "a map" value
  entries.mapM fun (key, item) => do pure (key, ← readString item)

/-! ## Struct fields -/

def field {α : Type} (entries : List (String × Value)) (name : String) (read : Value → Except String α)
    (absent : Except String α) : Except String α :=
  match List.lookup name entries with
  | some value => read value
  | none => absent

def requiredField {α : Type} (entries : List (String × Value)) (name : String)
    (read : Value → Except String α) : Except String α :=
  field entries name read (.error (missingField name))

def optionField {α : Type} (entries : List (String × Value)) (name : String)
    (read : Value → Except String α) : Except String (Option α) :=
  field entries name (fun value => some <$> read value) (.ok none)

def defaultField {α : Type} (entries : List (String × Value)) (name : String)
    (read : Value → Except String α) (default : α) : Except String α :=
  field entries name read (.ok default)

def optionEntry (name : String) : Option Value → List (String × Value)
  | some value => [(name, value)]
  | none => []

@[simp] theorem optionEntry_some (name : String) (value : Value) : optionEntry name (some value) = [(name, value)] :=
  rfl

@[simp] theorem optionEntry_none (name : String) : optionEntry name none = [] := rfl

/-! ## Reading back what was written -/

@[simp] theorem readBool_boolean (value : Bool) : readBool (.boolean value) = .ok value := rfl

@[simp] theorem readString_string (value : String) : readString (.string value) = .ok value := rfl

@[simp] theorem readTable_table (expected : String) (entries : List (String × Value)) :
    readTable expected (.table entries) = .ok entries := rfl

theorem readUnsigned_integer (bits : Nat) (name : String) (value : Nat) (fits : value < 2 ^ bits) :
    readUnsigned bits name (.integer value) = .ok value := by
  have inRange : (0 : Int) ≤ value ∧ (value : Int) < 2 ^ bits := ⟨Int.natCast_nonneg _, by exact_mod_cast fits⟩
  simp only [readUnsigned, inRange, and_self, if_true, Int.toNat_natCast]

theorem mapM_map_of_readBack {α β : Type} (read : β → Except String α) (write : α → β) (items : List α)
    (readBack : ∀ item ∈ items, read (write item) = .ok item) :
    (items.map write).mapM read = .ok items := by
  induction items with
  | nil => rfl
  | cons item items ih =>
      rw [List.map_cons, List.mapM_cons, readBack item List.mem_cons_self,
        ih fun other member => readBack other (List.mem_cons_of_mem _ member)]
      rfl

theorem readArray_map {α : Type} (read : Value → Except String α) (write : α → Value) (items : List α)
    (readBack : ∀ item ∈ items, read (write item) = .ok item) :
    readArray read (.array (items.map write)) = .ok items :=
  mapM_map_of_readBack read write items readBack

theorem readStringMap_table (entries : List (String × String)) :
    readStringMap (.table (entries.map fun (key, item) => (key, .string item))) = .ok entries :=
  mapM_map_of_readBack _ _ entries fun _ _ => rfl

@[simp] theorem field_cons_self {α : Type} (name : String) (value : Value) (entries : List (String × Value))
    (read : Value → Except String α) (absent : Except String α) :
    field ((name, value) :: entries) name read absent = read value := by
  simp only [field, List.lookup_cons_self]

@[simp] theorem field_cons_of_ne {α : Type} {name key : String} (apart : name ≠ key) (value : Value)
    (entries : List (String × Value)) (read : Value → Except String α) (absent : Except String α) :
    field ((key, value) :: entries) name read absent = field entries name read absent := by
  have differ : (name == key) = false := beq_false_of_ne apart
  simp only [field, List.lookup_cons, differ]

@[simp] theorem field_nil {α : Type} (name : String) (read : Value → Except String α) (absent : Except String α) :
    field [] name read absent = absent := rfl

@[simp] theorem lookup_cons_of_ne {name key : String} (apart : name ≠ key) (value : Value)
    (entries : List (String × Value)) :
    List.lookup name ((key, value) :: entries) = List.lookup name entries := by
  have differ : (name == key) = false := beq_false_of_ne apart
  simp only [List.lookup_cons, differ]

@[simp] theorem lookup_optionEntry_append_of_ne {name key : String} (apart : name ≠ key) (value : Option Value)
    (entries : List (String × Value)) :
    List.lookup name (optionEntry key value ++ entries) = List.lookup name entries := by
  have differ : (name == key) = false := beq_false_of_ne apart
  cases value <;> simp only [optionEntry, List.nil_append, List.singleton_append, List.lookup_cons, differ]

@[simp] theorem lookup_optionEntry_of_ne {name key : String} (apart : name ≠ key) (value : Option Value) :
    List.lookup name (optionEntry key value) = none := by
  have differ : (name == key) = false := beq_false_of_ne apart
  cases value <;> simp only [optionEntry, List.lookup_cons, List.lookup_nil, differ]

@[simp] theorem field_optionEntry_of_ne {α : Type} {name key : String} (apart : name ≠ key) (value : Option Value)
    (entries : List (String × Value)) (read : Value → Except String α) (absent : Except String α) :
    field (optionEntry key value ++ entries) name read absent = field entries name read absent := by
  simp only [field, lookup_optionEntry_append_of_ne apart]

/-! ### `Option` fields

An `Option` field is read back from its own entry, or from the absence of one, provided
no later entry has its key. -/

@[simp] theorem optionField_cons_of_ne {α : Type} {name key : String} (apart : name ≠ key) (value : Value)
    (entries : List (String × Value)) (read : Value → Except String α) :
    optionField ((key, value) :: entries) name read = optionField entries name read :=
  field_cons_of_ne apart value entries _ _

@[simp] theorem optionField_optionEntry_of_ne {α : Type} {name key : String} (apart : name ≠ key)
    (value : Option Value) (entries : List (String × Value)) (read : Value → Except String α) :
    optionField (optionEntry key value ++ entries) name read = optionField entries name read :=
  field_optionEntry_of_ne apart value entries _ _

theorem optionField_optionEntry {α : Type} (name : String) (read : Value → Except String α)
    (write : α → Value) (readBack : ∀ item, read (write item) = .ok item) (value : Option α)
    (entries : List (String × Value)) (clean : List.lookup name entries = none) :
    optionField (optionEntry name (value.map write) ++ entries) name read = .ok value := by
  cases value with
  | none => simp only [optionField, field, Option.map_none, optionEntry, List.nil_append, clean]
  | some item =>
      simp only [optionField, field, Option.map_some, optionEntry, List.singleton_append, List.lookup_cons_self,
        readBack]
      rfl

theorem optionField_optionEntry_last {α : Type} (name : String) (read : Value → Except String α)
    (write : α → Value) (readBack : ∀ item, read (write item) = .ok item) (value : Option α) :
    optionField (optionEntry name (value.map write)) name read = .ok value := by
  simpa only [List.append_nil] using optionField_optionEntry name read write readBack value [] rfl

end Serde
