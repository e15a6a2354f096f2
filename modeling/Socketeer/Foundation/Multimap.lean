import Mathlib.Data.List.AList
import Mathlib.Data.List.Induction

/-! # Multimaps with ordered values

A finite map from each of its keys to a non-empty list of values. Iterating over
it yields each key once for each of its values, those of one key in order.
-/

namespace Foundation

/-- A finite map from keys to non-empty lists of values. -/
abbrev Multimap (κ α : Type*) := AList fun _ : κ => { values : List α // values ≠ [] }

namespace Multimap

variable {κ α : Type*} [DecidableEq κ]

/-- The values of a key, in order. -/
def getAll (map : Multimap κ α) (key : κ) : List α :=
  match map.lookup key with
  | some values => values.val
  | none => []

/-- Give a key this value only. -/
def insert (map : Multimap κ α) (key : κ) (value : α) : Multimap κ α :=
  AList.insert key ⟨[value], List.cons_ne_nil _ _⟩ map

/-- Each key with each of its values. -/
def iter (map : Multimap κ α) : List (κ × α) :=
  map.entries.flatMap fun entry => entry.2.val.map fun value => (entry.1, value)

/-- Insert pairs one after the other. -/
def insertEach (map : Multimap κ α) (pairs : List (κ × α)) : Multimap κ α :=
  pairs.foldl (fun map pair => map.insert pair.1 pair.2) map

/-- The values that a list of pairs has for a key. -/
def valuesOf (pairs : List (κ × α)) (key : κ) : List α :=
  (pairs.filter fun pair => pair.1 = key).map Prod.snd

variable {map : Multimap κ α} {key : κ}

/-- A key is there exactly if it has a value. -/
theorem mem_iff_getAll : key ∈ map ↔ map.getAll key ≠ [] := by
  unfold getAll
  rw [← AList.lookup_isSome]
  cases found : map.lookup key with
  | none => simp
  | some values => simpa using values.property

/-- What is inserted replaces all values of its key. -/
theorem getAll_insert_self (value : α) : (map.insert key value).getAll key = [value] := by
  rw [getAll, insert, AList.lookup_insert]

/-- The other keys keep their values. -/
theorem getAll_insert_of_ne {other : κ} (different : key ≠ other) (value : α) :
    (map.insert other value).getAll key = map.getAll key := by
  rw [getAll, insert, AList.lookup_insert_ne different, getAll]

/-- A key that is inserted has the value inserted last, and any other key what
it had before. -/
theorem getAll_insertEach (map : Multimap κ α) (pairs : List (κ × α)) (key : κ) :
    (map.insertEach pairs).getAll key =
      match (valuesOf pairs key).getLast? with
      | some value => [value]
      | none => map.getAll key := by
  induction pairs using List.reverseRecOn with
  | nil => rfl
  | append_singleton pairs pair ih =>
      obtain ⟨name, value⟩ := pair
      have last : map.insertEach (pairs ++ [(name, value)]) =
          (map.insertEach pairs).insert name value := List.foldl_append ..
      rw [last]
      by_cases same : name = key
      · subst same
        rw [getAll_insert_self]
        simp [valuesOf]
      · rw [getAll_insert_of_ne (Ne.symm same), ih]
        simp [valuesOf, same]

/-- The values of a key, over two lists of entries. -/
private theorem valuesOf_append (first second : List (κ × α)) (key : κ) :
    valuesOf (first ++ second) key = valuesOf first key ++ valuesOf second key := by
  rw [valuesOf, List.filter_append, List.map_append]
  rfl

/-- The values of a key, over entries of one name. -/
private theorem valuesOf_values (name : κ) (values : List α) (key : κ) :
    valuesOf (values.map fun value => (name, value)) key = if name = key then values else [] := by
  by_cases same : name = key
  · simp [valuesOf, List.filter_map, same, Function.comp_def]
  · simp [valuesOf, List.filter_map, same, Function.comp_def]

/-- Each key's values are those of its one entry. -/
private theorem valuesOf_entries
    {entries : List (Sigma fun _ : κ => { values : List α // values ≠ [] })}
    (distinct : entries.NodupKeys) (key : κ) :
    valuesOf (entries.flatMap fun entry => entry.2.val.map fun value => (entry.1, value)) key =
      match entries.dlookup key with
      | some values => values.val
      | none => [] := by
  induction entries with
  | nil => rfl
  | cons entry rest ih =>
      obtain ⟨name, values⟩ := entry
      obtain ⟨fresh, distinct⟩ := List.nodupKeys_cons.mp distinct
      rw [List.flatMap_cons, valuesOf_append, valuesOf_values, ih distinct]
      by_cases same : name = key
      · subst same
        rw [List.dlookup_cons_eq, List.dlookup_eq_none.mpr fresh]
        simp
      · rw [List.dlookup_cons_ne rest _ (Ne.symm same), if_neg same, List.nil_append]

/-- Iterating yields the values of each key, in order. -/
theorem valuesOf_iter (map : Multimap κ α) (key : κ) : valuesOf map.iter key = map.getAll key :=
  valuesOf_entries map.nodupKeys key

end Multimap

end Foundation
