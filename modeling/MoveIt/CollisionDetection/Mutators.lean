import MoveIt.CollisionDetection.CollisionMatrix

namespace MoveIt.CollisionDetection

/-! # What each mutator writes

The bulk overloads of `setEntry` are loops over `setEntry(name1, name2, allowed)`.  Each is
reduced here to one fold lemma, which says exactly which pairs the loop writes; the removals
are read off the lookup lemmas.
-/

namespace AllowedCollisionMatrix

variable {Contact α : Type} {acm : AllowedCollisionMatrix Contact} {name x y : String}
  {allowed : Bool}

theorem samePair_comm {a b : String} : SamePair b a x y ↔ SamePair a b x y := or_comm

section Loop

variable (allowed) (guard : α → Prop) [DecidablePred guard] (first second : α → String)

/-- A loop calling `setEntry(first a, second a, allowed)` for the items that pass `guard`
writes exactly the pairs of those items. -/
theorem pairEntry_foldl_setEntry (items : List α) (acm : AllowedCollisionMatrix Contact) :
    (items.foldl (fun acm a => if guard a then acm.setEntry (first a) (second a) allowed else acm)
        acm).pairEntry x y =
      if ∃ a ∈ items, guard a ∧ SamePair (first a) (second a) x y then
        (some (typeOf allowed), none)
      else acm.pairEntry x y := by
  induction items generalizing acm with
  | nil => simp
  | cons item rest ih =>
      rw [List.foldl_cons, ih]
      simp only [List.mem_cons, or_and_right, exists_or, exists_eq_left]
      by_cases later : ∃ a ∈ rest, guard a ∧ SamePair (first a) (second a) x y
      · simp only [later, or_true, if_true]
      · by_cases passes : guard item <;> simp [later, passes]

theorem defaultEntry_foldl_setEntry (items : List α) (acm : AllowedCollisionMatrix Contact) :
    (items.foldl (fun acm a => if guard a then acm.setEntry (first a) (second a) allowed else acm)
        acm).defaultEntry x = acm.defaultEntry x := by
  induction items generalizing acm with
  | nil => rfl
  | cons item rest ih =>
      rw [List.foldl_cons, ih]
      split_ifs <;> rfl

end Loop

theorem pairEntry_setEntryToNames (otherNames : List String) :
    (acm.setEntryToNames name otherNames allowed).pairEntry x y =
      if ∃ other ∈ otherNames, other ≠ name ∧ SamePair other name x y then
        (some (typeOf allowed), none)
      else acm.pairEntry x y :=
  pairEntry_foldl_setEntry _ (· ≠ name) id (fun _ => name) otherNames acm

theorem defaultEntry_setEntryToNames (otherNames : List String) :
    (acm.setEntryToNames name otherNames allowed).defaultEntry x = acm.defaultEntry x :=
  defaultEntry_foldl_setEntry _ (· ≠ name) id (fun _ => name) otherNames acm

theorem pairEntry_setEntryBetween (names1 names2 : List String) :
    (acm.setEntryBetween names1 names2 allowed).pairEntry x y =
      if ∃ a ∈ names1, ∃ b ∈ names2, a ≠ b ∧ SamePair a b x y then (some (typeOf allowed), none)
      else acm.pairEntry x y := by
  induction names1 generalizing acm with
  | nil => simp [setEntryBetween]
  | cons first rest ih =>
      change (setEntryBetween (acm.setEntryToNames first names2 allowed) rest names2 allowed).pairEntry x y = _
      rw [ih, pairEntry_setEntryToNames]
      have swapped : (∃ other ∈ names2, other ≠ first ∧ SamePair other first x y) ↔
          ∃ b ∈ names2, first ≠ b ∧ SamePair first b x y :=
        exists_congr fun _ => and_congr_right fun _ => and_congr ne_comm samePair_comm
      refine ite_ite_of_or ?_ _ _
      rw [swapped]
      simp only [List.mem_cons, or_and_right, exists_or, exists_eq_left]
      exact or_comm

theorem defaultEntry_setEntryBetween (names1 names2 : List String) :
    (acm.setEntryBetween names1 names2 allowed).defaultEntry x = acm.defaultEntry x := by
  induction names1 generalizing acm with
  | nil => rfl
  | cons first rest ih => exact ih.trans (defaultEntry_setEntryToNames names2)

/-- Over keys without repetition, the `last` guard of `setEntry(name, allowed)` never fires. -/
private theorem foldl_setEntryToAll (keys : List String) (nodup : keys.Nodup)
    (acm : AllowedCollisionMatrix Contact) (last : String)
    (fresh : ∀ key ∈ keys, name ≠ key → last ≠ key) :
    (keys.foldl
      (fun (state : AllowedCollisionMatrix Contact × String) key =>
        if name ≠ key ∧ state.2 ≠ key then (state.1.setEntry name key allowed, key) else state)
      (acm, last)).1 =
    keys.foldl (fun acm key => if name ≠ key then acm.setEntry name key allowed else acm) acm := by
  induction keys generalizing acm last with
  | nil => rfl
  | cons key rest ih =>
      obtain ⟨notLater, restNodup⟩ := List.nodup_cons.mp nodup
      simp only [List.foldl_cons]
      by_cases other : name ≠ key
      · rw [if_pos ⟨other, fresh key (List.mem_cons_self _ _) other⟩, if_pos other]
        exact ih restNodup _ key fun later member _ same => notLater (same ▸ member)
      · rw [if_neg fun both => other both.1, if_neg other]
        exact ih restNodup _ last fun later member => fresh later (List.mem_cons_of_mem _ member)

theorem setEntryToAll_eq :
    acm.setEntryToAll name allowed =
      acm.entries.keys.foldl
        (fun acm key => if name ≠ key then acm.setEntry name key allowed else acm) acm :=
  foldl_setEntryToAll _ acm.entries.keys_nodup acm name fun _ _ differs => differs

theorem pairEntry_setEntryToAll :
    (acm.setEntryToAll name allowed).pairEntry x y =
      if ∃ key ∈ acm.entries, key ≠ name ∧ SamePair name key x y then
        (some (typeOf allowed), none)
      else acm.pairEntry x y := by
  rw [setEntryToAll_eq, pairEntry_foldl_setEntry _ (name ≠ ·) (fun _ => name) fun key => key]
  simp only [AList.mem_keys, ne_comm]

theorem defaultEntry_setEntryToAll :
    (acm.setEntryToAll name allowed).defaultEntry x = acm.defaultEntry x := by
  rw [setEntryToAll_eq]
  exact defaultEntry_foldl_setEntry _ (name ≠ ·) (fun _ => name) (fun key => key) _ acm

theorem pairEntry_ofNamesFrom (names : List String) (acm : AllowedCollisionMatrix Contact) :
    (ofNamesFrom allowed names acm).pairEntry x y =
      if x ∈ names ∧ y ∈ names then (some (typeOf allowed), none) else acm.pairEntry x y := by
  induction names generalizing acm with
  | nil => simp [ofNamesFrom]
  | cons name rest ih =>
      have row := pairEntry_foldl_setEntry allowed (fun _ => True) (fun _ => name) (fun other => other)
        (name :: rest) acm (x := x) (y := y)
      simp only [if_true, true_and] at row
      rw [ofNamesFrom, ih, row]
      refine ite_ite_of_or ⟨?_, ?_⟩ _ _
      · rintro (⟨inX, inY⟩ | ⟨other, member, ⟨rfl, rfl⟩ | ⟨rfl, rfl⟩⟩)
        · exact ⟨.tail _ inX, .tail _ inY⟩
        · exact ⟨.head _, member⟩
        · exact ⟨member, .head _⟩
      · rintro ⟨inX, inY⟩
        rcases List.mem_cons.mp inX with rfl | laterX
        · exact .inr ⟨y, inY, .inl ⟨rfl, rfl⟩⟩
        rcases List.mem_cons.mp inY with rfl | laterY
        · exact .inr ⟨x, inX, .inr ⟨rfl, rfl⟩⟩
        exact .inl ⟨laterX, laterY⟩

theorem defaultEntry_ofNamesFrom (names : List String) (acm : AllowedCollisionMatrix Contact) :
    (ofNamesFrom allowed names acm).defaultEntry x = acm.defaultEntry x := by
  induction names generalizing acm with
  | nil => rfl
  | cons name rest ih =>
      have row := defaultEntry_foldl_setEntry allowed (fun _ => True) (fun _ => name)
        (fun other => other) (name :: rest) acm (x := x)
      simp only [if_true] at row
      rw [ofNamesFrom, ih, row]

/-- `removeEntry(name)` clears every pair with `name` on either side and nothing else;
`removeEntry(name1, name2)` clears both orders of its pair and nothing else.  Neither touches
a default entry. -/
theorem removeEntry_clears_exactly (acm : AllowedCollisionMatrix Contact)
    (name name1 name2 : String) :
    (∀ x, (acm.removeEntry name).pairEntry name x = (none, none) ∧
      (acm.removeEntry name).pairEntry x name = (none, none)) ∧
    (∀ x y, x ≠ name → y ≠ name → (acm.removeEntry name).pairEntry x y = acm.pairEntry x y) ∧
    (∀ x, (acm.removeEntry name).defaultEntry x = acm.defaultEntry x) ∧
    (acm.removeEntryPair name1 name2).pairEntry name1 name2 = (none, none) ∧
    (acm.removeEntryPair name1 name2).pairEntry name2 name1 = (none, none) ∧
    (∀ x y, ¬SamePair name1 name2 x y →
      (acm.removeEntryPair name1 name2).pairEntry x y = acm.pairEntry x y) ∧
    (∀ x, (acm.removeEntryPair name1 name2).defaultEntry x = acm.defaultEntry x) := by
  refine ⟨fun x => ⟨?_, ?_⟩, fun x y left right => ?_, fun _ => rfl, ?_, ?_,
    fun x y other => ?_, fun _ => rfl⟩
  · simp [pairEntry_removeEntry]
  · simp [pairEntry_removeEntry]
  · simp [pairEntry_removeEntry, left, right]
  · simp [pairEntry_removeEntryPair, SamePair]
  · simp [pairEntry_removeEntryPair, SamePair]
  · simp [pairEntry_removeEntryPair, other]

/-- The bulk overloads write exactly their pairs, as `ALWAYS` or `NEVER` per `allowed` and
with no predicate: `setEntry(names1, names2, allowed)` the pairs across the two lists,
`setEntry(name, allowed)` the pairs of `name` with the other keys of the entry table, and
`AllowedCollisionMatrix(names, allowed)` every pair over `names`. -/
theorem bulk_setters_write_exactly (acm : AllowedCollisionMatrix Contact) (allowed : Bool)
    (names1 names2 : List String) (name : String) (names : List String) :
    (∀ x y, (acm.setEntryBetween names1 names2 allowed).pairEntry x y =
      if ∃ a ∈ names1, ∃ b ∈ names2, a ≠ b ∧ SamePair a b x y then (some (typeOf allowed), none)
      else acm.pairEntry x y) ∧
    (∀ x, (acm.setEntryBetween names1 names2 allowed).defaultEntry x = acm.defaultEntry x) ∧
    (∀ x y, (acm.setEntryToAll name allowed).pairEntry x y =
      if ∃ key ∈ acm.entries, key ≠ name ∧ SamePair name key x y then
        (some (typeOf allowed), none)
      else acm.pairEntry x y) ∧
    (∀ x, (acm.setEntryToAll name allowed).defaultEntry x = acm.defaultEntry x) ∧
    (∀ x y, (ofNames names allowed : AllowedCollisionMatrix Contact).pairEntry x y =
      if x ∈ names ∧ y ∈ names then (some (typeOf allowed), none) else (none, none)) ∧
    (∀ x, (ofNames names allowed : AllowedCollisionMatrix Contact).defaultEntry x = (none, none)) :=
  ⟨fun _ _ => pairEntry_setEntryBetween names1 names2, fun _ => defaultEntry_setEntryBetween names1 names2,
    fun _ _ => pairEntry_setEntryToAll, fun _ => defaultEntry_setEntryToAll,
    fun _ _ => pairEntry_ofNamesFrom names empty, fun _ => defaultEntry_ofNamesFrom names empty⟩

end AllowedCollisionMatrix

end MoveIt.CollisionDetection
