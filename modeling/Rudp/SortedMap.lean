import Rudp.Basic

/-!
# Ordered maps

`std::map` as entries in strictly increasing key order and `std::set` as a map
to `Unit`, so every `find_if` sees the entries as the C++ iteration does.
-/

set_option autoImplicit false

namespace Rudp

/-- Sorted association list insertion: assigns when the key is present. -/
def insertEntry {κ ν : Type} [LinearOrder κ] (key : κ) (value : ν) :
    List (κ × ν) → List (κ × ν)
  | [] => [(key, value)]
  | entry :: rest =>
      if key < entry.1 then (key, value) :: entry :: rest
      else if key = entry.1 then (key, value) :: rest
      else entry :: insertEntry key value rest

/-- Association list lookup by key. -/
def lookupEntry {κ ν : Type} [DecidableEq κ] (key : κ) : List (κ × ν) → Option ν
  | [] => none
  | entry :: rest => if entry.1 = key then some entry.2 else lookupEntry key rest

/-- A `std::map`: entries in strictly increasing key order. -/
structure SortedMap (κ ν : Type) [LinearOrder κ] where
  entries : List (κ × ν)
  sorted : entries.Pairwise (fun left right => left.1 < right.1)

namespace SortedMap

variable {κ ν : Type} [LinearOrder κ]

theorem mem_insertEntry {key : κ} {value : ν} {entries : List (κ × ν)} {entry : κ × ν}
    (member : entry ∈ insertEntry key value entries) : entry = (key, value) ∨ entry ∈ entries := by
  induction entries with
  | nil => simpa [insertEntry] using member
  | cons head rest ih =>
      simp only [insertEntry] at member
      split_ifs at member
      · simpa using member
      · rcases List.mem_cons.mp member with added | tail
        · exact .inl added
        · exact .inr (List.mem_cons_of_mem _ tail)
      · rcases List.mem_cons.mp member with rfl | tail
        · exact .inr (List.mem_cons_self _ _)
        · exact (ih tail).imp_right (List.mem_cons_of_mem _)

theorem insertEntry_sorted (key : κ) (value : ν) {entries : List (κ × ν)}
    (sorted : entries.Pairwise (fun left right => left.1 < right.1)) :
    (insertEntry key value entries).Pairwise (fun left right => left.1 < right.1) := by
  induction entries with
  | nil => exact List.pairwise_singleton _ _
  | cons head rest ih =>
      rw [List.pairwise_cons] at sorted
      simp only [insertEntry]
      split_ifs with below same
      · refine List.Pairwise.cons ?_ (List.Pairwise.cons sorted.1 sorted.2)
        intro entry member
        rcases List.mem_cons.mp member with rfl | tail
        · exact below
        · exact lt_trans below (sorted.1 entry tail)
      · exact List.Pairwise.cons (fun entry tail => same ▸ sorted.1 entry tail) sorted.2
      · refine List.Pairwise.cons ?_ (ih sorted.2)
        intro entry member
        rcases mem_insertEntry member with rfl | tail
        · exact lt_of_le_of_ne (not_lt.mp below) (Ne.symm same)
        · exact sorted.1 entry tail

theorem lookupEntry_insertEntry (key other : κ) (value : ν) (entries : List (κ × ν)) :
    lookupEntry other (insertEntry key value entries) =
      if other = key then some value else lookupEntry other entries := by
  induction entries with
  | nil => simp [insertEntry, lookupEntry, eq_comm]
  | cons head rest ih =>
      by_cases asked : other = key
      · subst asked
        simp only [insertEntry]
        split_ifs with below same
        · simp [lookupEntry]
        · simp [lookupEntry]
        · simp [lookupEntry, ih, Ne.symm same]
      · simp only [insertEntry]
        split_ifs with below same
        · simp [lookupEntry, asked, Ne.symm asked]
        · simp [lookupEntry, asked, Ne.symm asked, ← same]
        · simp [lookupEntry, ih, asked]

theorem lookupEntry_filter (key other : κ) (entries : List (κ × ν)) :
    lookupEntry other (entries.filter (fun entry => entry.1 ≠ key)) =
      if other = key then none else lookupEntry other entries := by
  induction entries with
  | nil => simp [lookupEntry]
  | cons head rest ih =>
      simp only [ne_eq, decide_not] at ih ⊢
      by_cases kept : head.1 = key
      · by_cases asked : other = key
        · simpa [List.filter_cons, kept, asked] using ih
        · simpa [List.filter_cons, lookupEntry, kept, asked, Ne.symm asked] using ih
      · by_cases asked : other = key
        · subst asked
          simpa [List.filter_cons, lookupEntry, kept] using ih
        · simp [List.filter_cons, lookupEntry, kept, asked, ih]

theorem lookupEntry_of_mem {entries : List (κ × ν)}
    (sorted : entries.Pairwise (fun left right => left.1 < right.1)) {entry : κ × ν}
    (member : entry ∈ entries) : lookupEntry entry.1 entries = some entry.2 := by
  induction entries with
  | nil => cases member
  | cons head rest ih =>
      rw [List.pairwise_cons] at sorted
      rcases List.mem_cons.mp member with rfl | tail
      · simp [lookupEntry]
      · have different : head.1 ≠ entry.1 := ne_of_lt (sorted.1 entry tail)
        simp [lookupEntry, different, ih sorted.2 tail]

theorem mem_of_lookupEntry {entries : List (κ × ν)} {key : κ} {value : ν}
    (found : lookupEntry key entries = some value) : (key, value) ∈ entries := by
  induction entries with
  | nil => cases found
  | cons head rest ih =>
      simp only [lookupEntry] at found
      split_ifs at found with same
      · cases found
        exact same ▸ List.mem_cons_self _ _
      · exact List.mem_cons_of_mem _ (ih found)

/-- The empty map. -/
def empty : SortedMap κ ν := ⟨[], .nil⟩

/-- `std::map::empty`. -/
def isEmpty (map : SortedMap κ ν) : Bool := map.entries.isEmpty

/-- `std::map::find`, as the value found. -/
def find (map : SortedMap κ ν) (key : κ) : Option ν := lookupEntry key map.entries

/-- Whether `find` succeeds. -/
def contains (map : SortedMap κ ν) (key : κ) : Bool := (map.find key).isSome

/-- `map[key] = value`. -/
def insert (map : SortedMap κ ν) (key : κ) (value : ν) : SortedMap κ ν :=
  ⟨insertEntry key value map.entries, insertEntry_sorted key value map.sorted⟩

/-- `std::map::erase(key)`. -/
def erase (map : SortedMap κ ν) (key : κ) : SortedMap κ ν :=
  ⟨map.entries.filter (fun entry => entry.1 ≠ key), map.sorted.filter _⟩

@[simp] theorem entries_empty : (empty : SortedMap κ ν).entries = [] := rfl

@[simp] theorem find_empty (key : κ) : (empty : SortedMap κ ν).find key = none := rfl

theorem find_insert (map : SortedMap κ ν) (key other : κ) (value : ν) :
    (map.insert key value).find other = if other = key then some value else map.find other :=
  lookupEntry_insertEntry key other value map.entries

@[simp] theorem find_insert_self (map : SortedMap κ ν) (key : κ) (value : ν) :
    (map.insert key value).find key = some value := by
  simp [find_insert]

theorem contains_insert (map : SortedMap κ ν) (key other : κ) (value : ν) :
    (map.insert key value).contains other = true ↔ other = key ∨ map.contains other = true := by
  by_cases same : other = key <;> simp [contains, find_insert, same]

theorem find_erase (map : SortedMap κ ν) (key other : κ) :
    (map.erase key).find other = if other = key then none else map.find other :=
  lookupEntry_filter key other map.entries

theorem contains_erase (map : SortedMap κ ν) (key other : κ) :
    (map.erase key).contains other = true ↔ other ≠ key ∧ map.contains other = true := by
  by_cases same : other = key <;> simp [contains, find_erase, same]

theorem find_insert_eq_update (map : SortedMap κ ν) (key : κ) (value : ν) :
    (map.insert key value).find = Function.update map.find key (some value) :=
  funext fun other => by simp [find_insert, Function.update_apply]

theorem find_erase_eq_update (map : SortedMap κ ν) (key : κ) :
    (map.erase key).find = Function.update map.find key none :=
  funext fun other => by simp [find_erase, Function.update_apply]

theorem mem_entries_insert {map : SortedMap κ ν} {key : κ} {value : ν} {entry : κ × ν}
    (member : entry ∈ (map.insert key value).entries) : entry = (key, value) ∨ entry ∈ map.entries :=
  mem_insertEntry member

theorem mem_entries_erase {map : SortedMap κ ν} {key : κ} {entry : κ × ν} :
    entry ∈ (map.erase key).entries ↔ entry ∈ map.entries ∧ entry.1 ≠ key := by
  simp [erase]

theorem find_eq_some_of_mem {map : SortedMap κ ν} {entry : κ × ν} (member : entry ∈ map.entries) :
    map.find entry.1 = some entry.2 :=
  lookupEntry_of_mem map.sorted member

theorem mem_of_find_eq_some {map : SortedMap κ ν} {key : κ} {value : ν}
    (found : map.find key = some value) : (key, value) ∈ map.entries :=
  mem_of_lookupEntry found

end SortedMap

end Rudp
