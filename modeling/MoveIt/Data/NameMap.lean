import Mathlib.Data.List.AList

namespace MoveIt.Data

/-! # Maps keyed by names

The `std::map<std::string, T>` tables of the allowed collision matrix, and the nested
`std::map<std::string, std::map<std::string, T>>` tables of its pairwise entries.  A map is an
`AList`, whose keys are distinct as those of a `std::map` are.  The order in which a
`std::map` visits its keys is never observable in the modelled functions (each of them either
sorts the keys or treats every key on its own), so the `AList` order stands in for it.
-/

/-- `std::map<std::string, α>`. -/
abbrev NameMap (α : Type) := AList (fun _ : String => α)

namespace NameMap

variable {α β : Type} {m : NameMap (NameMap α)} {outer inner x y : String} {value : α}

/-- Assignment through every iterator of a map: the keys stay, each value is rewritten. -/
def mapValues (f : α → β) (m : NameMap α) : NameMap β where
  entries := m.entries.map fun entry => ⟨entry.1, f entry.2⟩
  nodupKeys := by simpa [List.NodupKeys, List.keys, Function.comp_def] using m.nodupKeys

@[simp] theorem lookup_mapValues (f : α → β) (m : NameMap α) (key : String) :
    (m.mapValues f).lookup key = (m.lookup key).map f :=
  List.dlookup_map₂ (l := m.entries) (f := fun _ => f) key

@[simp] theorem keys_mapValues (f : α → β) (m : NameMap α) :
    (m.mapValues f).keys = m.keys := by
  simp [mapValues, AList.keys, List.keys, Function.comp_def]

@[simp] theorem mem_mapValues (f : α → β) (m : NameMap α) (key : String) :
    key ∈ m.mapValues f ↔ key ∈ m := by
  simp only [AList.mem_keys, keys_mapValues]

/-- `m[outer][inner]` read through two `find`s: absent when either key is. -/
def lookup₂ (m : NameMap (NameMap α)) (outer inner : String) : Option α :=
  (m.lookup outer).bind (AList.lookup inner)

/-- `m[outer][inner] = value`, where `operator[]` first creates an empty inner map for an
`outer` key not yet present. -/
def insert₂ (outer inner : String) (value : α) (m : NameMap (NameMap α)) :
    NameMap (NameMap α) :=
  m.insert outer (((m.lookup outer).getD ∅).insert inner value)

/-- `it = m.find(outer); if (it != m.end()) it->second.erase(inner);`.  The inner map stays
under `outer`, possibly empty. -/
def erase₂ (outer inner : String) (m : NameMap (NameMap α)) : NameMap (NameMap α) :=
  match m.lookup outer with
  | some values => m.insert outer (values.erase inner)
  | none => m

@[simp] theorem lookup₂_empty : (∅ : NameMap (NameMap α)).lookup₂ x y = none := rfl

theorem lookup₂_insert₂ :
    (m.insert₂ outer inner value).lookup₂ x y =
      if x = outer ∧ y = inner then some value else m.lookup₂ x y := by
  by_cases sameOuter : x = outer
  · subst sameOuter
    by_cases sameInner : y = inner
    · subst sameInner
      simp [lookup₂, insert₂, AList.lookup_insert]
    · simp only [lookup₂, insert₂, AList.lookup_insert, Option.some_bind,
        AList.lookup_insert_ne sameInner, sameInner, and_false, if_false]
      cases m.lookup x <;> rfl
  · simp [lookup₂, insert₂, sameOuter, AList.lookup_insert_ne]

theorem lookup₂_erase₂ :
    (m.erase₂ outer inner).lookup₂ x y =
      if x = outer ∧ y = inner then none else m.lookup₂ x y := by
  unfold erase₂
  by_cases sameOuter : x = outer
  · subst sameOuter
    cases found : m.lookup x with
    | none => simp [lookup₂, found]
    | some values =>
        by_cases sameInner : y = inner
        · subst sameInner
          simp [lookup₂, AList.lookup_insert, AList.lookup_erase]
        · simp [lookup₂, found, sameInner, AList.lookup_insert, AList.lookup_erase_ne]
  · cases m.lookup outer <;> simp [lookup₂, sameOuter, AList.lookup_insert_ne]

theorem lookup₂_erase (name : String) :
    lookup₂ (m.erase name) x y = if x = name then none else m.lookup₂ x y := by
  by_cases same : x = name
  · subst same
    simp [lookup₂, AList.lookup_erase]
  · simp [lookup₂, same, AList.lookup_erase_ne]

/-- Erasing `name` from every inner map. -/
theorem lookup₂_mapValues_erase (name : String) :
    (m.mapValues (AList.erase name)).lookup₂ x y =
      if y = name then none else m.lookup₂ x y := by
  cases found : m.lookup x with
  | none => simp [lookup₂, found]
  | some values =>
      by_cases same : y = name
      · subst same
        simp [lookup₂, found, AList.lookup_erase]
      · simp [lookup₂, found, same, AList.lookup_erase_ne]

/-- Rewriting every value of every inner map. -/
theorem lookup₂_mapValues_mapValues (f : α → β) :
    (m.mapValues (mapValues f)).lookup₂ x y = (m.lookup₂ x y).map f := by
  cases found : m.lookup x <;> simp [lookup₂, found]

@[simp] theorem mem_insert₂ : x ∈ m.insert₂ outer inner value ↔ x = outer ∨ x ∈ m :=
  AList.mem_insert _

@[simp] theorem mem_erase₂ : x ∈ m.erase₂ outer inner ↔ x ∈ m := by
  unfold erase₂
  cases found : m.lookup outer with
  | none => rfl
  | some values =>
      have present : outer ∈ m := AList.lookup_isSome.mp (by simp [found])
      rw [AList.mem_insert]
      constructor
      · rintro (rfl | member)
        · exact present
        · exact member
      · exact Or.inr

theorem mem_of_lookup₂ (found : m.lookup₂ x y = some value) : x ∈ m := by
  cases present : m.lookup x with
  | none => simp [lookup₂, present] at found
  | some values => exact AList.lookup_isSome.mp (by simp [present])

end NameMap

end MoveIt.Data
