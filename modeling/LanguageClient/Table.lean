/-!
# Tables

A table holds at most one value under each key and remembers the order in which its keys first
came. A value put under a key that is already present replaces the old one in its place, so a
table that only ever receives values never forgets a key.
-/

namespace LanguageClient

/-- Values under keys, in the order in which the keys first came. -/
structure Table (κ ν : Type) where
  /-- The keys with their values. -/
  entries : List (κ × ν)
deriving Repr, DecidableEq

namespace Table

variable {κ ν : Type} [DecidableEq κ]

/-- No key has a value. -/
def empty : Table κ ν := ⟨[]⟩

/-- The value that comes first under a key in a list of keyed values. -/
def find (key : κ) : List (κ × ν) → Option ν
  | [] => none
  | (k, v) :: rest => if k = key then some v else find key rest

/-- The value of a key. -/
def get? (table : Table κ ν) (key : κ) : Option ν := find key table.entries

/-- Whether a key has a value. -/
def contains (table : Table κ ν) (key : κ) : Bool := (table.get? key).isSome

/-- A list of keyed values with the value of one key replaced, or put at the end. -/
def put (key : κ) (value : ν) : List (κ × ν) → List (κ × ν)
  | [] => [(key, value)]
  | (k, v) :: rest => if k = key then (k, value) :: rest else (k, v) :: put key value rest

/-- The table with a value under a key, the older value of that key forgotten. -/
def insert (table : Table κ ν) (key : κ) (value : ν) : Table κ ν := ⟨put key value table.entries⟩

/-- The table without a key. -/
def erase (table : Table κ ν) (key : κ) : Table κ ν :=
  ⟨table.entries.filter fun entry => entry.1 ≠ key⟩

/-- The keys in the order in which they first came. -/
def keys (table : Table κ ν) : List κ := table.entries.map Prod.fst

/-- The number of keys. -/
def size (table : Table κ ν) : Nat := table.entries.length

/-- The table of a list of keyed values, a later value of a key replacing an earlier one. -/
def ofList (entries : List (κ × ν)) : Table κ ν :=
  entries.foldl (fun table entry => table.insert entry.1 entry.2) empty

/-- The value of a key changed by a function; a table without the key stays as it is. -/
def modify (table : Table κ ν) (key : κ) (change : ν → ν) : Table κ ν :=
  ⟨table.entries.map fun entry => if entry.1 = key then (entry.1, change entry.2) else entry⟩

/-- An empty table has no value under any key. -/
@[simp]
theorem get?_empty (key : κ) : (empty : Table κ ν).get? key = none := rfl

/-- A value is found under the key under which it was put, and the others as before. -/
theorem find_put (key other : κ) (value : ν) (entries : List (κ × ν)) :
    find other (put key value entries) =
      if key = other then some value else find other entries := by
  induction entries with
  | nil => simp [put, find]
  | cons entry rest ih =>
    obtain ⟨k, v⟩ := entry
    by_cases same : k = key
    · subst same
      by_cases hit : k = other <;> simp [put, find, hit]
    · by_cases hit : k = other
      · subst hit
        simp [put, find, same, Ne.symm same]
      · simp [put, find, same, hit, ih]

/-- After an insertion the key has the new value and every other key has the value it had. -/
@[simp]
theorem get?_insert (table : Table κ ν) (key other : κ) (value : ν) :
    (table.insert key value).get? other = if key = other then some value else table.get? other :=
  find_put key other value table.entries

/-- Nothing is found under a key that was filtered out, and the others as before. -/
theorem find_filter_ne (key other : κ) (entries : List (κ × ν)) :
    find other (entries.filter fun entry => entry.1 ≠ key) =
      if key = other then none else find other entries := by
  induction entries with
  | nil => simp [find]
  | cons entry rest ih =>
    obtain ⟨k, v⟩ := entry
    by_cases same : k = key
    · subst same
      by_cases hit : k = other
      · subst hit
        simpa using ih
      · simpa [find, hit] using ih
    · by_cases hit : k = other
      · subst hit
        simp [find, same, Ne.symm same]
      · simpa [find, same, hit] using ih

/-- After an erasure the key has no value and every other key has the value it had. -/
@[simp]
theorem get?_erase (table : Table κ ν) (key other : κ) :
    (table.erase key).get? other = if key = other then none else table.get? other :=
  find_filter_ne key other table.entries

/-- A change is found under its key, and the other values as before. -/
theorem find_map_change (key other : κ) (change : ν → ν) (entries : List (κ × ν)) :
    find other (entries.map fun entry =>
        if entry.1 = key then (entry.1, change entry.2) else entry) =
      if key = other then (find other entries).map change else find other entries := by
  induction entries with
  | nil => simp [find]
  | cons entry rest ih =>
    obtain ⟨k, v⟩ := entry
    by_cases same : k = key
    · subst same
      by_cases hit : k = other <;> simp [find, hit, ih]
    · by_cases hit : k = other
      · subst hit
        simp [find, same, Ne.symm same]
      · simp [find, same, hit, ih]

/-- After a change the value of the key is changed and every other key has the value it had. -/
@[simp]
theorem get?_modify (table : Table κ ν) (key other : κ) (change : ν → ν) :
    (table.modify key change).get? other =
      if key = other then (table.get? other).map change else table.get? other :=
  find_map_change key other change table.entries

/-- A change puts no key in and takes none out. -/
@[simp]
theorem contains_modify (table : Table κ ν) (key other : κ) (change : ν → ν) :
    (table.modify key change).contains other = table.contains other := by
  unfold contains
  rw [get?_modify]
  split <;> simp

/-- A key is looked for among the first entries, and then among the others. -/
theorem find_append (key : κ) (first second : List (κ × ν)) :
    find key (first ++ second) = (find key first).or (find key second) := by
  induction first with
  | nil => simp [find]
  | cons entry rest ih =>
    obtain ⟨k, v⟩ := entry
    by_cases same : k = key <;> simp [find, same, ih]

/-- A value that is found under a key stands with the key in the list. -/
theorem mem_of_find {key : κ} {value : ν} {entries : List (κ × ν)}
    (found : find key entries = some value) : (key, value) ∈ entries := by
  induction entries with
  | nil => simp [find] at found
  | cons entry rest ih =>
    obtain ⟨k, v⟩ := entry
    by_cases same : k = key
    · simp only [find, same, ↓reduceIte, Option.some.injEq] at found
      simp [same, found]
    · simp only [find, same, ↓reduceIte] at found
      exact List.mem_cons_of_mem _ (ih found)

/-- Of several values of a key in a list, the table of the list holds the last. -/
theorem get?_ofList (entries : List (κ × ν)) (key : κ) :
    (ofList entries).get? key = find key entries.reverse := by
  have built (rest : List (κ × ν)) (table : Table κ ν) :
      (rest.foldl (fun table entry => table.insert entry.1 entry.2) table).get? key =
        (find key rest.reverse).or (table.get? key) := by
    induction rest generalizing table with
    | nil => simp [find]
    | cons entry rest ih =>
      rw [List.foldl_cons, ih, get?_insert, List.reverse_cons, find_append]
      by_cases same : entry.1 = key <;> simp [find, same]
  simpa [ofList] using built entries empty

/-- A value is found if an entry has the key. -/
theorem isSome_find (key : κ) (entries : List (κ × ν)) :
    (find key entries).isSome = true ↔ key ∈ entries.map Prod.fst := by
  induction entries with
  | nil => simp [find]
  | cons entry rest ih =>
    obtain ⟨k, v⟩ := entry
    by_cases same : k = key
    · simp [find, same]
    · simp [find, same, Ne.symm same, ih]

/-- A table contains exactly its keys. -/
theorem contains_iff_mem_keys (table : Table κ ν) (key : κ) :
    table.contains key = true ↔ key ∈ table.keys :=
  isSome_find key table.entries

/-- A new key stands behind the others, and a known one stays in its place. -/
theorem map_fst_put (key : κ) (value : ν) (entries : List (κ × ν)) :
    (put key value entries).map Prod.fst =
      if key ∈ entries.map Prod.fst then entries.map Prod.fst
      else entries.map Prod.fst ++ [key] := by
  induction entries with
  | nil => simp [put]
  | cons entry rest ih =>
    obtain ⟨k, v⟩ := entry
    by_cases same : k = key
    · simp [put, same]
    · rw [put, if_neg same, List.map_cons, ih]
      by_cases later : key ∈ rest.map Prod.fst
      · simp [later]
      · simp [later, Ne.symm same]

/-- An insertion keeps every key once. -/
theorem nodup_keys_insert {table : Table κ ν} (once : table.keys.Nodup) (key : κ) (value : ν) :
    (table.insert key value).keys.Nodup := by
  have grown : (table.insert key value).keys =
      if key ∈ table.keys then table.keys else table.keys ++ [key] :=
    map_fst_put key value table.entries
  rw [grown]
  split
  · exact once
  · rename_i fresh
    rw [List.nodup_append]
    refine ⟨once, by simp, ?_⟩
    rintro a held b new rfl
    rw [List.mem_singleton.mp new] at held
    exact fresh held

/-- An erasure keeps every key once. -/
theorem nodup_keys_erase {table : Table κ ν} (once : table.keys.Nodup) (key : κ) :
    (table.erase key).keys.Nodup :=
  (List.filter_sublist.map Prod.fst).nodup once

/-- A change leaves the keys as they are. -/
@[simp]
theorem keys_modify (table : Table κ ν) (key : κ) (change : ν → ν) :
    (table.modify key change).keys = table.keys := by
  unfold keys modify
  rw [List.map_map]
  apply List.map_congr_left
  intro entry member
  by_cases same : entry.1 = key <;> simp [same]

/-- The table of a list has every key once. -/
theorem nodup_keys_ofList (entries : List (κ × ν)) : (ofList entries).keys.Nodup := by
  have built (rest : List (κ × ν)) (table : Table κ ν) (once : table.keys.Nodup) :
      (rest.foldl (fun table entry => table.insert entry.1 entry.2) table).keys.Nodup := by
    induction rest generalizing table with
    | nil => exact once
    | cons entry rest ih => exact ih _ (nodup_keys_insert once entry.1 entry.2)
  exact built entries empty List.nodup_nil

end Table

end LanguageClient
