import MoveIt.Data.NameMap

namespace MoveIt.CollisionDetection

open MoveIt.Data

/-! # The allowed collision matrix

`collision_detection::AllowedCollisionMatrix` (`collision_matrix.cpp`) keeps four tables: the
type and the predicate of each ordered pair of names, and the default type and predicate of
each single name.  A `DecideContactFn` takes the contact by non-const reference, so it is
modelled as a function that answers and returns the contact as it leaves it; the contact stays
abstract: no modelled function inspects one.
-/

/-- `AllowedCollision::Type`. -/
inductive AllowedCollision where
  | never
  | always
  | conditional
deriving DecidableEq, Repr

/-- `DecideContactFn` (`boost::function<bool(Contact&)>`): whether a contact of a `CONDITIONAL`
pair is allowed, and the contact after the call. -/
abbrev DecideContactFn (Contact : Type) := Contact → Bool × Contact

structure AllowedCollisionMatrix (Contact : Type) where
  entries : NameMap (NameMap AllowedCollision)
  allowedContacts : NameMap (NameMap (DecideContactFn Contact))
  defaultEntries : NameMap AllowedCollision
  defaultAllowedContacts : NameMap (DecideContactFn Contact)

/-- The ordered pair `(x, y)` is one of the two orders of the pair `{name1, name2}`. -/
def SamePair (name1 name2 x y : String) : Prop :=
  (x = name1 ∧ y = name2) ∨ (x = name2 ∧ y = name1)

instance (name1 name2 x y : String) : Decidable (SamePair name1 name2 x y) :=
  inferInstanceAs (Decidable ((x = name1 ∧ y = name2) ∨ (x = name2 ∧ y = name1)))

theorem samePair_swap {name1 name2 x y : String} :
    SamePair name1 name2 y x ↔ SamePair name1 name2 x y :=
  or_comm.trans (or_congr and_comm and_comm)

namespace AllowedCollisionMatrix

variable {Contact : Type}

/-- `AllowedCollisionMatrix()`, and the matrix `clear()` leaves. -/
def empty : AllowedCollisionMatrix Contact := ⟨∅, ∅, ∅, ∅⟩

/-- `AllowedCollisionMatrix(const AllowedCollisionMatrix&)`. -/
def copy (acm : AllowedCollisionMatrix Contact) : AllowedCollisionMatrix Contact where
  entries := acm.entries
  allowedContacts := acm.allowedContacts
  defaultEntries := acm.defaultEntries
  defaultAllowedContacts := acm.defaultAllowedContacts

section Queries

variable (acm : AllowedCollisionMatrix Contact) (name name1 name2 : String)

/-- `getEntry(name1, name2, DecideContactFn&)`. -/
def getEntryFn : Option (DecideContactFn Contact) := acm.allowedContacts.lookup₂ name1 name2

/-- `getEntry(name1, name2, AllowedCollision::Type&)`. -/
def getEntry : Option AllowedCollision := acm.entries.lookup₂ name1 name2

/-- `hasEntry(name)`: `name` is a key of the entry table. -/
def hasNameEntry : Bool := decide (name ∈ acm.entries)

/-- `getDefaultEntry(name, AllowedCollision::Type&)`. -/
def getDefaultEntry : Option AllowedCollision := acm.defaultEntries.lookup name

/-- `getDefaultEntry(name, DecideContactFn&)`. -/
def getDefaultEntryFn : Option (DecideContactFn Contact) := acm.defaultAllowedContacts.lookup name

/-- What the two pairwise tables hold for the ordered pair `(name1, name2)`. -/
def pairEntry : Option AllowedCollision × Option (DecideContactFn Contact) :=
  (acm.getEntry name1 name2, acm.getEntryFn name1 name2)

/-- What the two default tables hold for `name`. -/
def defaultEntry : Option AllowedCollision × Option (DecideContactFn Contact) :=
  (acm.getDefaultEntry name, acm.getDefaultEntryFn name)

end Queries

/-- `andDecideContact`: `f1(contact) && f2(contact)`, so `f2` runs only when `f1` allows the
contact, and it sees the contact as `f1` left it. -/
def andDecideContact (fn1 fn2 : DecideContactFn Contact) : DecideContactFn Contact :=
  fun contact =>
    match fn1 contact with
    | (true, contact) => fn2 contact
    | (false, contact) => (false, contact)

/-- `getAllowedCollision(name1, name2, DecideContactFn&)`.  It reads the default predicates
only; its final `return false` is unreachable. -/
def getAllowedCollisionFn (acm : AllowedCollisionMatrix Contact) (name1 name2 : String) :
    Option (DecideContactFn Contact) :=
  match acm.getDefaultEntryFn name1, acm.getDefaultEntryFn name2 with
  | none, none => acm.getEntryFn name1 name2
  | some fn1, none => some fn1
  | none, some fn2 => some fn2
  | some fn1, some fn2 => some (andDecideContact fn1 fn2)

/-- `getAllowedCollision(name1, name2, AllowedCollision::Type&)`: the defaults of the two
names first, combined with `NEVER` over `CONDITIONAL` over `ALWAYS`. -/
def getAllowedCollision (acm : AllowedCollisionMatrix Contact) (name1 name2 : String) :
    Option AllowedCollision :=
  match acm.getDefaultEntry name1, acm.getDefaultEntry name2 with
  | none, none => acm.getEntry name1 name2
  | some t1, none => some t1
  | none, some t2 => some t2
  | some t1, some t2 =>
      some (if t1 = .never ∨ t2 = .never then .never
        else if t1 = .conditional ∨ t2 = .conditional then .conditional
        else .always)

section Mutators

variable (acm : AllowedCollisionMatrix Contact)

/-- `allowed ? AllowedCollision::ALWAYS : AllowedCollision::NEVER`. -/
def typeOf (allowed : Bool) : AllowedCollision := if allowed then .always else .never

/-- `setEntry(name1, name2, bool allowed)`; it also removes the predicates of the pair. -/
def setEntry (name1 name2 : String) (allowed : Bool) : AllowedCollisionMatrix Contact :=
  { acm with
    entries := (acm.entries.insert₂ name2 name1 (typeOf allowed)).insert₂ name1 name2 (typeOf allowed)
    allowedContacts := (acm.allowedContacts.erase₂ name1 name2).erase₂ name2 name1 }

/-- `setEntry(name1, name2, const DecideContactFn& fn)`. -/
def setEntryFn (name1 name2 : String) (fn : DecideContactFn Contact) :
    AllowedCollisionMatrix Contact :=
  { acm with
    entries := (acm.entries.insert₂ name2 name1 .conditional).insert₂ name1 name2 .conditional
    allowedContacts := (acm.allowedContacts.insert₂ name2 name1 fn).insert₂ name1 name2 fn }

/-- `removeEntry(name)`: the row of `name` goes, then `name` is erased from every other row. -/
def removeEntry (name : String) : AllowedCollisionMatrix Contact :=
  { acm with
    entries := NameMap.mapValues (AList.erase name) (acm.entries.erase name)
    allowedContacts := NameMap.mapValues (AList.erase name) (acm.allowedContacts.erase name) }

/-- `removeEntry(name1, name2)`. -/
def removeEntryPair (name1 name2 : String) : AllowedCollisionMatrix Contact :=
  { acm with
    entries := (acm.entries.erase₂ name1 name2).erase₂ name2 name1
    allowedContacts := (acm.allowedContacts.erase₂ name1 name2).erase₂ name2 name1 }

/-- `setEntry(name, other_names, allowed)`. -/
def setEntryToNames (name : String) (otherNames : List String) (allowed : Bool) :
    AllowedCollisionMatrix Contact :=
  otherNames.foldl
    (fun acm otherName => if otherName ≠ name then acm.setEntry otherName name allowed else acm) acm

/-- `setEntry(names1, names2, allowed)`. -/
def setEntryBetween (names1 names2 : List String) (allowed : Bool) :
    AllowedCollisionMatrix Contact :=
  names1.foldl (fun acm name1 => acm.setEntryToNames name1 names2 allowed) acm

/-- `setEntry(name, allowed)`: `name` against every key of the entry table, skipping `name`
and the previous key `last`.  The loop inserts into the table it iterates; the only key it can
add is `name`, which it skips, so it visits exactly the keys present when it starts. -/
def setEntryToAll (name : String) (allowed : Bool) : AllowedCollisionMatrix Contact :=
  (acm.entries.keys.foldl
    (fun (state : AllowedCollisionMatrix Contact × String) key =>
      if name ≠ key ∧ state.2 ≠ key then (state.1.setEntry name key allowed, key) else state)
    (acm, name)).1

/-- `setEntry(bool allowed)`: every pairwise type is rewritten in place; the predicate table
is left as it is. -/
def setEntryAll (allowed : Bool) : AllowedCollisionMatrix Contact :=
  { acm with entries := NameMap.mapValues (NameMap.mapValues fun _ => typeOf allowed) acm.entries }

/-- `setDefaultEntry(name, bool allowed)`. -/
def setDefaultEntry (name : String) (allowed : Bool) : AllowedCollisionMatrix Contact :=
  { acm with
    defaultEntries := acm.defaultEntries.insert name (typeOf allowed)
    defaultAllowedContacts := acm.defaultAllowedContacts.erase name }

/-- `setDefaultEntry(name, const DecideContactFn& fn)`. -/
def setDefaultEntryFn (name : String) (fn : DecideContactFn Contact) :
    AllowedCollisionMatrix Contact :=
  { acm with
    defaultEntries := acm.defaultEntries.insert name .conditional
    defaultAllowedContacts := acm.defaultAllowedContacts.insert name fn }

/-- `clear()`: the four tables are emptied. -/
def clear : AllowedCollisionMatrix Contact := empty

end Mutators

/-- Two writes of one value under two guards are one write under their disjunction. -/
theorem ite_ite_of_or {β : Type} {p q r : Prop} [Decidable p] [Decidable q] [Decidable r]
    (iff : p ∨ q ↔ r) (written kept : β) :
    (if p then written else if q then written else kept) = if r then written else kept := by
  rw [← ite_or]
  exact if_congr iff rfl rfl

section Lookups

variable {acm : AllowedCollisionMatrix Contact} {name name1 name2 x y : String} {allowed : Bool}
  {fn : DecideContactFn Contact}

@[simp] theorem getEntry_empty : (empty : AllowedCollisionMatrix Contact).getEntry x y = none :=
  rfl

@[simp] theorem getEntryFn_empty :
    (empty : AllowedCollisionMatrix Contact).getEntryFn x y = none := rfl

@[simp] theorem getDefaultEntry_empty :
    (empty : AllowedCollisionMatrix Contact).getDefaultEntry x = none := rfl

@[simp] theorem getDefaultEntryFn_empty :
    (empty : AllowedCollisionMatrix Contact).getDefaultEntryFn x = none := rfl

@[simp] theorem getEntry_setEntry :
    (acm.setEntry name1 name2 allowed).getEntry x y =
      if SamePair name1 name2 x y then some (typeOf allowed) else acm.getEntry x y := by
  simp only [getEntry, setEntry, NameMap.lookup₂_insert₂]
  exact ite_ite_of_or Iff.rfl _ _

@[simp] theorem getEntryFn_setEntry :
    (acm.setEntry name1 name2 allowed).getEntryFn x y =
      if SamePair name1 name2 x y then none else acm.getEntryFn x y := by
  simp only [getEntryFn, setEntry, NameMap.lookup₂_erase₂]
  exact ite_ite_of_or or_comm _ _

@[simp] theorem getDefaultEntry_setEntry :
    (acm.setEntry name1 name2 allowed).getDefaultEntry x = acm.getDefaultEntry x := rfl

@[simp] theorem getDefaultEntryFn_setEntry :
    (acm.setEntry name1 name2 allowed).getDefaultEntryFn x = acm.getDefaultEntryFn x := rfl

@[simp] theorem getEntry_setEntryFn :
    (acm.setEntryFn name1 name2 fn).getEntry x y =
      if SamePair name1 name2 x y then some .conditional else acm.getEntry x y := by
  simp only [getEntry, setEntryFn, NameMap.lookup₂_insert₂]
  exact ite_ite_of_or Iff.rfl _ _

@[simp] theorem getEntryFn_setEntryFn :
    (acm.setEntryFn name1 name2 fn).getEntryFn x y =
      if SamePair name1 name2 x y then some fn else acm.getEntryFn x y := by
  simp only [getEntryFn, setEntryFn, NameMap.lookup₂_insert₂]
  exact ite_ite_of_or Iff.rfl _ _

@[simp] theorem getDefaultEntry_setEntryFn :
    (acm.setEntryFn name1 name2 fn).getDefaultEntry x = acm.getDefaultEntry x := rfl

@[simp] theorem getDefaultEntryFn_setEntryFn :
    (acm.setEntryFn name1 name2 fn).getDefaultEntryFn x = acm.getDefaultEntryFn x := rfl

@[simp] theorem getEntry_removeEntry :
    (acm.removeEntry name).getEntry x y =
      if x = name ∨ y = name then none else acm.getEntry x y := by
  simp only [getEntry, removeEntry, NameMap.lookup₂_mapValues_erase, NameMap.lookup₂_erase]
  exact ite_ite_of_or or_comm _ _

@[simp] theorem getEntryFn_removeEntry :
    (acm.removeEntry name).getEntryFn x y =
      if x = name ∨ y = name then none else acm.getEntryFn x y := by
  simp only [getEntryFn, removeEntry, NameMap.lookup₂_mapValues_erase, NameMap.lookup₂_erase]
  exact ite_ite_of_or or_comm _ _

@[simp] theorem getDefaultEntry_removeEntry :
    (acm.removeEntry name).getDefaultEntry x = acm.getDefaultEntry x := rfl

@[simp] theorem getDefaultEntryFn_removeEntry :
    (acm.removeEntry name).getDefaultEntryFn x = acm.getDefaultEntryFn x := rfl

@[simp] theorem getEntry_removeEntryPair :
    (acm.removeEntryPair name1 name2).getEntry x y =
      if SamePair name1 name2 x y then none else acm.getEntry x y := by
  simp only [getEntry, removeEntryPair, NameMap.lookup₂_erase₂]
  exact ite_ite_of_or or_comm _ _

@[simp] theorem getEntryFn_removeEntryPair :
    (acm.removeEntryPair name1 name2).getEntryFn x y =
      if SamePair name1 name2 x y then none else acm.getEntryFn x y := by
  simp only [getEntryFn, removeEntryPair, NameMap.lookup₂_erase₂]
  exact ite_ite_of_or or_comm _ _

@[simp] theorem getDefaultEntry_removeEntryPair :
    (acm.removeEntryPair name1 name2).getDefaultEntry x = acm.getDefaultEntry x := rfl

@[simp] theorem getDefaultEntryFn_removeEntryPair :
    (acm.removeEntryPair name1 name2).getDefaultEntryFn x = acm.getDefaultEntryFn x := rfl

@[simp] theorem getEntry_setEntryAll :
    (acm.setEntryAll allowed).getEntry x y = (acm.getEntry x y).map fun _ => typeOf allowed :=
  NameMap.lookup₂_mapValues_mapValues _

@[simp] theorem getEntryFn_setEntryAll :
    (acm.setEntryAll allowed).getEntryFn x y = acm.getEntryFn x y := rfl

@[simp] theorem getDefaultEntry_setEntryAll :
    (acm.setEntryAll allowed).getDefaultEntry x = acm.getDefaultEntry x := rfl

@[simp] theorem getDefaultEntryFn_setEntryAll :
    (acm.setEntryAll allowed).getDefaultEntryFn x = acm.getDefaultEntryFn x := rfl

@[simp] theorem getEntry_setDefaultEntry :
    (acm.setDefaultEntry name allowed).getEntry x y = acm.getEntry x y := rfl

@[simp] theorem getEntryFn_setDefaultEntry :
    (acm.setDefaultEntry name allowed).getEntryFn x y = acm.getEntryFn x y := rfl

@[simp] theorem getDefaultEntry_setDefaultEntry :
    (acm.setDefaultEntry name allowed).getDefaultEntry x =
      if x = name then some (typeOf allowed) else acm.getDefaultEntry x := by
  by_cases same : x = name
  · subst same
    simp [getDefaultEntry, setDefaultEntry, AList.lookup_insert]
  · simp [getDefaultEntry, setDefaultEntry, same, AList.lookup_insert_ne]

@[simp] theorem getDefaultEntryFn_setDefaultEntry :
    (acm.setDefaultEntry name allowed).getDefaultEntryFn x =
      if x = name then none else acm.getDefaultEntryFn x := by
  by_cases same : x = name
  · subst same
    simp [getDefaultEntryFn, setDefaultEntry, AList.lookup_erase]
  · simp [getDefaultEntryFn, setDefaultEntry, same, AList.lookup_erase_ne]

@[simp] theorem getEntry_setDefaultEntryFn :
    (acm.setDefaultEntryFn name fn).getEntry x y = acm.getEntry x y := rfl

@[simp] theorem getEntryFn_setDefaultEntryFn :
    (acm.setDefaultEntryFn name fn).getEntryFn x y = acm.getEntryFn x y := rfl

@[simp] theorem getDefaultEntry_setDefaultEntryFn :
    (acm.setDefaultEntryFn name fn).getDefaultEntry x =
      if x = name then some .conditional else acm.getDefaultEntry x := by
  by_cases same : x = name
  · subst same
    simp [getDefaultEntry, setDefaultEntryFn, AList.lookup_insert]
  · simp [getDefaultEntry, setDefaultEntryFn, same, AList.lookup_insert_ne]

@[simp] theorem getDefaultEntryFn_setDefaultEntryFn :
    (acm.setDefaultEntryFn name fn).getDefaultEntryFn x =
      if x = name then some fn else acm.getDefaultEntryFn x := by
  by_cases same : x = name
  · subst same
    simp [getDefaultEntryFn, setDefaultEntryFn, AList.lookup_insert]
  · simp [getDefaultEntryFn, setDefaultEntryFn, same, AList.lookup_insert_ne]

@[simp] theorem pairEntry_setEntry :
    (acm.setEntry name1 name2 allowed).pairEntry x y =
      if SamePair name1 name2 x y then (some (typeOf allowed), none) else acm.pairEntry x y := by
  simp only [pairEntry, getEntry_setEntry, getEntryFn_setEntry]
  split_ifs <;> rfl

@[simp] theorem defaultEntry_setEntry :
    (acm.setEntry name1 name2 allowed).defaultEntry x = acm.defaultEntry x := rfl

@[simp] theorem pairEntry_setEntryFn :
    (acm.setEntryFn name1 name2 fn).pairEntry x y =
      if SamePair name1 name2 x y then (some .conditional, some fn) else acm.pairEntry x y := by
  simp only [pairEntry, getEntry_setEntryFn, getEntryFn_setEntryFn]
  split_ifs <;> rfl

@[simp] theorem defaultEntry_setEntryFn :
    (acm.setEntryFn name1 name2 fn).defaultEntry x = acm.defaultEntry x := rfl

theorem pairEntry_removeEntry :
    (acm.removeEntry name).pairEntry x y =
      if x = name ∨ y = name then (none, none) else acm.pairEntry x y := by
  simp only [pairEntry, getEntry_removeEntry, getEntryFn_removeEntry]
  split_ifs <;> rfl

theorem defaultEntry_removeEntry :
    (acm.removeEntry name).defaultEntry x = acm.defaultEntry x := rfl

theorem pairEntry_removeEntryPair :
    (acm.removeEntryPair name1 name2).pairEntry x y =
      if SamePair name1 name2 x y then (none, none) else acm.pairEntry x y := by
  simp only [pairEntry, getEntry_removeEntryPair, getEntryFn_removeEntryPair]
  split_ifs <;> rfl

theorem defaultEntry_removeEntryPair :
    (acm.removeEntryPair name1 name2).defaultEntry x = acm.defaultEntry x := rfl

end Lookups

/-- The rows of `AllowedCollisionMatrix(names, allowed)` from the one of `names[i]` on:
`setEntry(names[i], names[j], allowed)` for `j ≥ i`. -/
def ofNamesFrom (allowed : Bool) :
    List String → AllowedCollisionMatrix Contact → AllowedCollisionMatrix Contact
  | [], acm => acm
  | name :: rest, acm =>
      ofNamesFrom allowed rest
        ((name :: rest).foldl (fun acm other => acm.setEntry name other allowed) acm)

/-- `AllowedCollisionMatrix(names, allowed)`. -/
def ofNames (names : List String) (allowed : Bool) : AllowedCollisionMatrix Contact :=
  ofNamesFrom allowed names empty

end AllowedCollisionMatrix

end MoveIt.CollisionDetection
