import Mathlib.Data.List.Basic

/-! # Registries

Items under names that are given out in order and never again. What holds
between any two items of a registry is kept by an operation as soon as it holds
between the item the operation puts there and the others
(`Foundation.Registry.Apart`).
-/

namespace Foundation

/-- Items under names below a bound. -/
@[ext]
structure Registry (α : Type*) where
  find : Nat → Option α
  named : Nat
  unnamed : ∀ name, named ≤ name → find name = none

namespace Registry

variable {α : Type*}

def empty : Registry α where
  find _ := none
  named := 0
  unnamed _ _ := rfl

/-- Put an item under the next name. -/
def add (registry : Registry α) (item : α) : Registry α where
  find name := if name = registry.named then some item else registry.find name
  named := registry.named + 1
  unnamed name above := by
    rw [if_neg (by omega)]
    exact registry.unnamed name (by omega)

/-- Put an item in the place of the one under a name. -/
def set (registry : Registry α) (name : Nat) (item : α) : Registry α where
  find other := if other = name then (registry.find name).map fun _ => item
    else registry.find other
  named := registry.named
  unnamed other above := by
    by_cases here : other = name
    · rw [if_pos here, ← here, registry.unnamed other above]
      rfl
    · rw [if_neg here, registry.unnamed other above]

/-- Remove the item under a name. -/
def remove (registry : Registry α) (name : Nat) : Registry α where
  find other := if other = name then none else registry.find other
  named := registry.named
  unnamed other above := by
    rw [registry.unnamed other above, ite_self]

variable {registry : Registry α} {name other : Nat} {item found : α}

/-- What is there was named before. -/
theorem lt_named (present : registry.find name = some found) : name < registry.named := by
  by_contra above
  rw [registry.unnamed name (Nat.le_of_not_lt above)] at present
  cases present

/-- What is added is found under the next name. -/
theorem find_add_self : (registry.add item).find registry.named = some item := if_pos rfl

/-- What was there is still found when something is added. -/
theorem find_add_of_find (present : registry.find name = some found) :
    (registry.add item).find name = some found :=
  (if_neg (Nat.ne_of_lt (lt_named present))).trans present

/-- What is there after something was added is that or was there before. -/
theorem find_add_cases (present : (registry.add item).find name = some found) :
    (name = registry.named ∧ found = item) ∨ registry.find name = some found := by
  by_cases here : name = registry.named
  · rw [here, find_add_self] at present
    exact .inl ⟨here, (Option.some.inj present).symm⟩
  · exact .inr ((if_neg here).symm.trans present)

/-- The others keep what they have. -/
theorem find_set_of_ne (different : other ≠ name) :
    (registry.set name item).find other = registry.find other := if_neg different

/-- What is replaced is found as what it was replaced by. -/
theorem find_set_self {old : α} (present : registry.find name = some old) :
    (registry.set name item).find name = some item := by
  change (if name = name then (registry.find name).map fun _ => item else _) = _
  rw [if_pos rfl, present]
  rfl

/-- What is there after a replacement is the replacement or another item from
before. -/
theorem find_set_cases (present : (registry.set name item).find other = some found) :
    (other = name ∧ found = item ∧ (registry.find name).isSome) ∨
      (other ≠ name ∧ registry.find other = some found) := by
  by_cases here : other = name
  · subst here
    change (if other = other then (registry.find other).map fun _ => item else _) = _ at present
    rw [if_pos rfl] at present
    obtain ⟨old, old', rfl⟩ := Option.map_eq_some_iff.mp present
    exact .inl ⟨rfl, rfl, by rw [old']; rfl⟩
  · exact .inr ⟨here, (find_set_of_ne here).symm.trans present⟩

/-- Putting an item where it is changes nothing. -/
theorem set_same (present : registry.find name = some item) :
    registry.set name item = registry := by
  refine Registry.ext ?_ rfl
  funext other
  by_cases here : other = name
  · rw [here, find_set_self present, present]
  · exact find_set_of_ne here

/-- What is there after a removal has another name and was there before. -/
theorem find_remove_cases (present : (registry.remove name).find other = some found) :
    other ≠ name ∧ registry.find other = some found := by
  by_cases here : other = name
  · change (if other = name then none else _) = _ at present
    rw [if_pos here] at present
    cases present
  · exact ⟨here, (if_neg here).symm.trans present⟩

/-- What holds between items under different names. -/
def Apart (relation : α → α → Prop) (registry : Registry α) : Prop :=
  ∀ name other item item', registry.find name = some item → registry.find other = some item' →
    name ≠ other → relation item item'

variable {relation : α → α → Prop}

/-- Items stay apart if the one that is added is apart from all that are there. -/
theorem Apart.add (apart : registry.Apart relation)
    (symmetric : ∀ {item item'}, relation item item' → relation item' item)
    (others : ∀ other found, registry.find other = some found → relation found item) :
    (registry.add item).Apart relation := by
  intro name other first second here there different
  rcases find_add_cases here with ⟨rfl, rfl⟩ | before
  · rcases find_add_cases there with ⟨rfl, rfl⟩ | before'
    · exact absurd rfl different
    · exact symmetric (others other second before')
  · rcases find_add_cases there with ⟨rfl, rfl⟩ | before'
    · exact others name first before
    · exact apart name other first second before before' different

/-- Items stay apart if the replacement is apart from all the others. -/
theorem Apart.set (apart : registry.Apart relation)
    (symmetric : ∀ {item item'}, relation item item' → relation item' item)
    (others : ∀ other found, other ≠ name → registry.find other = some found →
      relation found item) : (registry.set name item).Apart relation := by
  intro first second item' item'' here there different
  rcases find_set_cases here with ⟨rfl, rfl, _⟩ | ⟨away, before⟩
  · rcases find_set_cases there with ⟨rfl, _, _⟩ | ⟨away', before'⟩
    · exact absurd rfl different
    · exact symmetric (others second item'' away' before')
  · rcases find_set_cases there with ⟨rfl, rfl, _⟩ | ⟨away', before'⟩
    · exact others first item' away before
    · exact apart first second item' item'' before before' different

/-- Items that are apart stay so when one of them goes. -/
theorem Apart.remove (apart : registry.Apart relation) :
    (registry.remove name).Apart relation := by
  intro first second item' item'' here there different
  exact apart first second item' item'' (find_remove_cases here).2 (find_remove_cases there).2
    different

end Registry

end Foundation
