import Mathlib.Data.List.Sigma
import Mathlib.Order.Basic
import Mathlib.Order.Lattice

/-!
# Ordered maps as key-sorted entry lists

For everything but cost, an ordered map (a B-tree map, a red-black map) is a
list of entries sorted strictly by key: lookup finds the one entry of a key,
insertion replaces that entry or puts a new one in order, and iteration visits
the keys in ascending order. `SortedMap` keeps that list with its sortedness in
the structure, so no map with two entries for one key can be built.

Lookup and removal are Mathlib's `List.dlookup` and `List.kerase`; insertion
replaces on collision in one pass, so its lookup lemmas need no hypothesis.
-/

set_option autoImplicit false

variable {κ ν μ : Type} [LinearOrder κ]

def insertEntry (key : κ) (value : ν) : List ((_ : κ) × ν) → List ((_ : κ) × ν)
  | [] => [⟨key, value⟩]
  | ⟨other, otherValue⟩ :: rest =>
      if key < other then ⟨key, value⟩ :: ⟨other, otherValue⟩ :: rest
      else if key = other then ⟨key, value⟩ :: rest
      else ⟨other, otherValue⟩ :: insertEntry key value rest

@[simp] theorem insertEntry_nil (key : κ) (value : ν) : insertEntry key value [] = [⟨key, value⟩] := rfl

theorem insertEntry_cons (key other : κ) (value otherValue : ν) (rest : List ((_ : κ) × ν)) :
    insertEntry key value (⟨other, otherValue⟩ :: rest) =
      if key < other then ⟨key, value⟩ :: ⟨other, otherValue⟩ :: rest
      else if key = other then ⟨key, value⟩ :: rest
      else ⟨other, otherValue⟩ :: insertEntry key value rest := rfl

theorem mem_insertEntry {key : κ} {value : ν} {entry : (_ : κ) × ν}
    {entries : List ((_ : κ) × ν)} (member : entry ∈ insertEntry key value entries) :
    entry = ⟨key, value⟩ ∨ entry ∈ entries := by
  induction entries with
  | nil => simpa using member
  | cons head rest ih =>
      obtain ⟨other, otherValue⟩ := head
      rw [insertEntry_cons] at member
      split_ifs at member with before same
      · simpa using member
      · simp only [List.mem_cons] at member
        rcases member with found | inRest
        · exact .inl found
        · exact .inr (List.mem_cons_of_mem _ inRest)
      · simp only [List.mem_cons] at member
        rcases member with found | inRest
        · exact .inr (found ▸ List.mem_cons_self)
        · rcases ih inRest with found | inRest
          · exact .inl found
          · exact .inr (List.mem_cons_of_mem _ inRest)

theorem insertEntry_sorted (key : κ) (value : ν) {entries : List ((_ : κ) × ν)}
    (sorted : entries.Pairwise (fun a b => a.1 < b.1)) :
    (insertEntry key value entries).Pairwise (fun a b => a.1 < b.1) := by
  induction entries with
  | nil => simp
  | cons head rest ih =>
      obtain ⟨other, otherValue⟩ := head
      have headBelow : ∀ entry ∈ rest, other < entry.1 :=
        fun _ member => List.rel_of_pairwise_cons sorted member
      rw [insertEntry_cons]
      split_ifs with before same
      · refine sorted.cons fun entry member => ?_
        rcases List.mem_cons.mp member with rfl | inRest
        · exact before
        · exact before.trans (headBelow _ inRest)
      · subst same
        exact sorted.of_cons.cons fun entry member => headBelow entry member
      · -- the new key lies beyond `other`, so `other` stays in front
        have after : other < key := lt_of_le_of_ne (not_lt.mp before) (Ne.symm same)
        refine (ih sorted.of_cons).cons fun entry member => ?_
        rcases mem_insertEntry member with rfl | inRest
        · exact after
        · exact headBelow _ inRest

theorem dlookup_insertEntry_self (key : κ) (value : ν) (entries : List ((_ : κ) × ν)) :
    (insertEntry key value entries).dlookup key = some value := by
  induction entries with
  | nil => simp
  | cons head rest ih =>
      obtain ⟨other, otherValue⟩ := head
      rw [insertEntry_cons]
      split_ifs with before same
      · simp
      · simp
      · simp [List.dlookup_cons_ne _ (⟨other, otherValue⟩ : (_ : κ) × ν) same, ih]

theorem dlookup_insertEntry_ne {key other : κ} (value : ν) (distinct : key ≠ other)
    (entries : List ((_ : κ) × ν)) :
    (insertEntry key value entries).dlookup other = entries.dlookup other := by
  have skipped (anyValue : ν) (rest : List ((_ : κ) × ν)) :
      (⟨key, anyValue⟩ :: rest).dlookup other = rest.dlookup other :=
    List.dlookup_cons_ne rest (⟨key, anyValue⟩ : (_ : κ) × ν) distinct.symm
  induction entries with
  | nil => simp [skipped]
  | cons head rest ih =>
      obtain ⟨third, thirdValue⟩ := head
      rw [insertEntry_cons]
      split_ifs with before same
      · rw [skipped]
      · subst same
        simp [skipped]
      · by_cases found : third = other
        · subst found
          simp
        · simp [List.dlookup_cons_ne _ (⟨third, thirdValue⟩ : (_ : κ) × ν) (Ne.symm found), ih]

theorem length_insertEntry_le (key : κ) (value : ν) (entries : List ((_ : κ) × ν)) :
    (insertEntry key value entries).length ≤ entries.length + 1 := by
  induction entries with
  | nil => simp
  | cons head rest ih =>
      obtain ⟨other, otherValue⟩ := head
      rw [insertEntry_cons]
      split_ifs <;> simp [ih]

theorem length_insertEntry_of_isSome {key : κ} (value : ν) {entries : List ((_ : κ) × ν)}
    (sorted : entries.Pairwise (fun a b => a.1 < b.1)) (present : (entries.dlookup key).isSome) :
    (insertEntry key value entries).length = entries.length := by
  induction entries with
  | nil => simp at present
  | cons head rest ih =>
      obtain ⟨other, otherValue⟩ := head
      rw [insertEntry_cons]
      split_ifs with before same
      · -- every key after `other` is above it, so a key below `other` is not held
        have later : (rest.dlookup key).isSome := by
          rwa [List.dlookup_cons_ne _ _ (ne_of_lt before)] at present
        obtain ⟨entry, member, rfl⟩ := List.mem_map.mp (List.dlookup_isSome.mp later)
        exact absurd (before.trans (List.rel_of_pairwise_cons sorted member)) (lt_irrefl _)
      · rfl
      · rw [List.dlookup_cons_ne _ _ same] at present
        rw [List.length_cons, List.length_cons, ih sorted.of_cons present]

/-- A finite map with ordered keys, as its entries in ascending key order. -/
structure SortedMap (κ ν : Type) [LinearOrder κ] where
  entries : List ((_ : κ) × ν)
  sorted : entries.Pairwise (fun a b => a.1 < b.1)

namespace SortedMap

instance [DecidableEq ν] : DecidableEq (SortedMap κ ν) := fun left right =>
  decidable_of_iff (left.entries = right.entries) (by
    cases left
    cases right
    simp)

def empty : SortedMap κ ν := ⟨[], .nil⟩

def find? (map : SortedMap κ ν) (key : κ) : Option ν := map.entries.dlookup key

def insert (map : SortedMap κ ν) (key : κ) (value : ν) : SortedMap κ ν :=
  ⟨insertEntry key value map.entries, insertEntry_sorted key value map.sorted⟩

def erase (map : SortedMap κ ν) (key : κ) : SortedMap κ ν :=
  ⟨map.entries.kerase key, map.sorted.sublist (List.kerase_sublist key map.entries)⟩

def remove (map : SortedMap κ ν) (key : κ) : Option ν × SortedMap κ ν :=
  (map.find? key, map.erase key)

def size (map : SortedMap κ ν) : Nat := map.entries.length

def keys (map : SortedMap κ ν) : List κ := map.entries.map (·.1)

def mapValues (update : κ → ν → μ) (map : SortedMap κ ν) : SortedMap κ μ :=
  ⟨map.entries.map (fun entry => ⟨entry.1, update entry.1 entry.2⟩),
    List.pairwise_map.mpr (map.sorted.imp id)⟩

def filter (keep : κ → ν → Bool) (map : SortedMap κ ν) : SortedMap κ ν :=
  ⟨map.entries.filter fun entry => keep entry.1 entry.2, map.sorted.sublist List.filter_sublist⟩

theorem nodupKeys (map : SortedMap κ ν) : map.entries.NodupKeys :=
  List.nodupKeys_iff_pairwise.mpr (map.sorted.imp ne_of_lt)

@[simp] theorem find?_empty (key : κ) : (empty : SortedMap κ ν).find? key = none := rfl

@[simp] theorem find?_insert_self (map : SortedMap κ ν) (key : κ) (value : ν) :
    (map.insert key value).find? key = some value :=
  dlookup_insertEntry_self key value map.entries

theorem find?_insert_ne (map : SortedMap κ ν) {key other : κ} (value : ν)
    (distinct : key ≠ other) : (map.insert key value).find? other = map.find? other :=
  dlookup_insertEntry_ne value distinct map.entries

theorem find?_insert (map : SortedMap κ ν) (key other : κ) (value : ν) :
    (map.insert key value).find? other = if key = other then some value else map.find? other := by
  split
  · rename_i same
    subst same
    exact find?_insert_self map key value
  · rename_i distinct
    exact find?_insert_ne map value distinct

@[simp] theorem find?_erase_self (map : SortedMap κ ν) (key : κ) :
    (map.erase key).find? key = none :=
  List.dlookup_kerase key map.nodupKeys

theorem find?_erase_ne (map : SortedMap κ ν) {key other : κ} (distinct : key ≠ other) :
    (map.erase key).find? other = map.find? other :=
  List.dlookup_kerase_ne (Ne.symm distinct)

theorem find?_eq_some_iff (map : SortedMap κ ν) (key : κ) (value : ν) :
    map.find? key = some value ↔ (⟨key, value⟩ : (_ : κ) × ν) ∈ map.entries :=
  List.mem_dlookup_iff map.nodupKeys

@[simp] theorem remove_fst (map : SortedMap κ ν) (key : κ) : (map.remove key).1 = map.find? key :=
  rfl

@[simp] theorem remove_snd (map : SortedMap κ ν) (key : κ) : (map.remove key).2 = map.erase key :=
  rfl

theorem find?_mapValues (update : κ → ν → μ) (map : SortedMap κ ν) (key : κ) :
    (map.mapValues update).find? key = (map.find? key).map (update key) := by
  obtain ⟨entries, sorted⟩ := map
  simp only [find?, mapValues]
  clear sorted
  induction entries with
  | nil => rfl
  | cons head rest ih =>
      obtain ⟨other, value⟩ := head
      by_cases same : other = key
      · subst same
        simp
      · simp [List.dlookup_cons_ne _ (⟨other, update other value⟩ : (_ : κ) × μ) (Ne.symm same),
          List.dlookup_cons_ne _ (⟨other, value⟩ : (_ : κ) × ν) (Ne.symm same), ih]

theorem size_insert_le (map : SortedMap κ ν) (key : κ) (value : ν) :
    (map.insert key value).size ≤ map.size + 1 :=
  length_insertEntry_le key value map.entries

theorem size_insert_of_isSome (map : SortedMap κ ν) {key : κ} (value : ν)
    (present : (map.find? key).isSome) : (map.insert key value).size = map.size :=
  length_insertEntry_of_isSome value map.sorted present

theorem size_erase_le (map : SortedMap κ ν) (key : κ) : (map.erase key).size ≤ map.size :=
  (List.kerase_sublist key map.entries).length_le

theorem size_erase_of_find?_isSome (map : SortedMap κ ν) {key : κ}
    (present : (map.find? key).isSome) : (map.erase key).size + 1 = map.size := by
  obtain ⟨value, front, back, -, split, erased⟩ :=
    List.exists_of_kerase (List.dlookup_isSome.mp present)
  change (map.entries.kerase key).length + 1 = map.entries.length
  rw [erased, split, List.length_append, List.length_append, List.length_cons]
  omega

theorem find?_filter (keep : κ → ν → Bool) (map : SortedMap κ ν) (key : κ) :
    (map.filter keep).find? key = (map.find? key).filter (keep key) := by
  apply Option.ext
  intro value
  rw [find?_eq_some_iff, Option.filter_eq_some_iff, find?_eq_some_iff]
  exact List.mem_filter

theorem size_filter_add (keep : κ → ν → Bool) (map : SortedMap κ ν) :
    (map.filter keep).size + (map.entries.filter fun entry => !keep entry.1 entry.2).length = map.size :=
  (List.length_eq_length_filter_add _).symm

theorem size_filter_le (keep : κ → ν → Bool) (map : SortedMap κ ν) : (map.filter keep).size ≤ map.size :=
  List.length_filter_le _ _

theorem size_filter_mapValues (update : κ → ν → ν) (keep : κ → ν → Bool) (map : SortedMap κ ν)
    (unaffected : ∀ key value, keep key (update key value) = keep key value) :
    ((map.mapValues update).filter keep).size = (map.filter keep).size := by
  simp only [size, filter, mapValues, List.filter_map]
  rw [List.length_map]
  congr 2
  funext entry
  exact unaffected entry.1 entry.2

@[simp] theorem size_mapValues (update : κ → ν → μ) (map : SortedMap κ ν) :
    (map.mapValues update).size = map.size := by
  simp [size, mapValues]

theorem mem_keys_iff (map : SortedMap κ ν) (key : κ) : key ∈ map.keys ↔ (map.find? key).isSome :=
  List.dlookup_isSome.symm

theorem find?_foldl_erase (map : SortedMap κ ν) (keys : List κ) (key : κ) :
    (keys.foldl (fun map erased => map.erase erased) map).find? key =
      if key ∈ keys then none else map.find? key := by
  induction keys generalizing map with
  | nil => simp
  | cons erased keys ih =>
      rw [List.foldl_cons, ih]
      by_cases same : erased = key
      · subst same
        simp
      · simp [find?_erase_ne map same, Ne.symm same]

theorem size_foldl_erase_le (map : SortedMap κ ν) (keys : List κ) :
    (keys.foldl (fun map erased => map.erase erased) map).size ≤ map.size := by
  induction keys generalizing map with
  | nil => exact le_refl _
  | cons erased keys ih => exact (ih _).trans (size_erase_le map erased)

theorem nodup_keys_filter (map : SortedMap κ ν) (keep : (_ : κ) × ν → Bool) :
    ((map.entries.filter keep).map (·.1)).Nodup :=
  List.NodupKeys.sublist List.filter_sublist map.nodupKeys

/-! ### Properties of every entry -/

/-- Every stored pair of a key and its value satisfies `property`. -/
def All (property : κ → ν → Prop) (map : SortedMap κ ν) : Prop :=
  ∀ key value, map.find? key = some value → property key value

theorem all_empty (property : κ → ν → Prop) : (empty : SortedMap κ ν).All property :=
  fun _ _ absent => nomatch absent

theorem All.insert {property : κ → ν → Prop} {map : SortedMap κ ν} (all : map.All property)
    {key : κ} {value : ν} (holds : property key value) : (map.insert key value).All property := by
  intro other found stored
  rw [find?_insert] at stored
  split at stored
  · rename_i same
    subst same
    cases stored
    exact holds
  · exact all other found stored

theorem All.erase {property : κ → ν → Prop} {map : SortedMap κ ν} (all : map.All property) (key : κ) :
    (map.erase key).All property := by
  intro other found stored
  by_cases same : key = other
  · subst same
    rw [find?_erase_self] at stored
    cases stored
  · rw [find?_erase_ne map same] at stored
    exact all other found stored

theorem All.filter {property : κ → ν → Prop} {map : SortedMap κ ν} (all : map.All property)
    (keep : κ → ν → Bool) : (map.filter keep).All property := by
  intro key value stored
  rw [find?_filter, Option.filter_eq_some_iff] at stored
  exact all key value stored.1

theorem All.mapValues {property : κ → ν → Prop} {map : SortedMap κ ν} (all : map.All property)
    {update : κ → ν → ν} (keeps : ∀ key value, property key value → property key (update key value)) :
    (map.mapValues update).All property := by
  intro key value stored
  rw [find?_mapValues, Option.map_eq_some_iff] at stored
  obtain ⟨old, found, rfl⟩ := stored
  exact keeps key old (all key old found)

theorem All.foldl_erase {property : κ → ν → Prop} {map : SortedMap κ ν} (all : map.All property)
    (keys : List κ) : (keys.foldl (fun map erased => map.erase erased) map).All property := by
  induction keys generalizing map with
  | nil => exact all
  | cons erased keys ih => exact ih (all.erase erased)

theorem All.of_mem {property : κ → ν → Prop} {map : SortedMap κ ν} (all : map.All property)
    {entry : (_ : κ) × ν} (member : entry ∈ map.entries) : property entry.1 entry.2 :=
  all entry.1 entry.2 ((find?_eq_some_iff map entry.1 entry.2).mpr member)

end SortedMap
