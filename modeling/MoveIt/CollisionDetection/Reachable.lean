import MoveIt.CollisionDetection.Mutators
import MoveIt.CollisionDetection.Message

namespace MoveIt.CollisionDetection

/-! # Reachable matrices

The matrices a client can build: a constructor followed by any sequence of public mutators.
`WellFormed` is what all of them satisfy; every mutator is shown to keep it through the lookup
lemmas, never by unfolding the mutator again.
-/

/-- The public mutators of `AllowedCollisionMatrix`, one constructor per overload. -/
inductive Mutator (Contact : Type) where
  | setEntry (name1 name2 : String) (allowed : Bool)
  | setEntryFn (name1 name2 : String) (fn : DecideContactFn Contact)
  | setEntryToNames (name : String) (otherNames : List String) (allowed : Bool)
  | setEntryBetween (names1 names2 : List String) (allowed : Bool)
  | setEntryToAll (name : String) (allowed : Bool)
  | setEntryAll (allowed : Bool)
  | removeEntry (name : String)
  | removeEntryPair (name1 name2 : String)
  | setDefaultEntry (name : String) (allowed : Bool)
  | setDefaultEntryFn (name : String) (fn : DecideContactFn Contact)
  | clear

namespace AllowedCollisionMatrix

variable {Contact : Type}

/-- Runs one mutator. -/
def apply (acm : AllowedCollisionMatrix Contact) : Mutator Contact → AllowedCollisionMatrix Contact
  | .setEntry name1 name2 allowed => acm.setEntry name1 name2 allowed
  | .setEntryFn name1 name2 fn => acm.setEntryFn name1 name2 fn
  | .setEntryToNames name otherNames allowed => acm.setEntryToNames name otherNames allowed
  | .setEntryBetween names1 names2 allowed => acm.setEntryBetween names1 names2 allowed
  | .setEntryToAll name allowed => acm.setEntryToAll name allowed
  | .setEntryAll allowed => acm.setEntryAll allowed
  | .removeEntry name => acm.removeEntry name
  | .removeEntryPair name1 name2 => acm.removeEntryPair name1 name2
  | .setDefaultEntry name allowed => acm.setDefaultEntry name allowed
  | .setDefaultEntryFn name fn => acm.setDefaultEntryFn name fn
  | .clear => clear

/-- The matrices built by a constructor and then any sequence of mutators. -/
inductive Reachable : AllowedCollisionMatrix Contact → Prop where
  | empty : Reachable empty
  | ofNames (names : List String) (allowed : Bool) : Reachable (ofNames names allowed)
  | ofMessage (msg : AllowedCollisionMatrixMsg) : Reachable (ofMessage msg)
  | copy {acm : AllowedCollisionMatrix Contact} : Reachable acm → Reachable acm.copy
  | mutate {acm : AllowedCollisionMatrix Contact} (mutator : Mutator Contact) :
      Reachable acm → Reachable (acm.apply mutator)

/-- The pairwise tables are symmetric, a `CONDITIONAL` pair has its predicate, and a name has a
default predicate exactly when its default type is `CONDITIONAL`. -/
structure WellFormed (acm : AllowedCollisionMatrix Contact) : Prop where
  entriesSymmetric : ∀ x y, acm.getEntry x y = acm.getEntry y x
  contactsSymmetric : ∀ x y, acm.getEntryFn x y = acm.getEntryFn y x
  conditionalStored : ∀ x y, acm.getEntry x y = some .conditional → (acm.getEntryFn x y).isSome
  defaultStored : ∀ x,
    (acm.getDefaultEntryFn x).isSome ↔ acm.getDefaultEntry x = some .conditional

variable {acm acm' : AllowedCollisionMatrix Contact}

theorem typeOf_ne_conditional (allowed : Bool) : typeOf allowed ≠ .conditional := by
  cases allowed <;> simp [typeOf]

theorem wellFormed_empty : (empty : AllowedCollisionMatrix Contact).WellFormed :=
  ⟨fun _ _ => rfl, fun _ _ => rfl, fun _ _ found => (by cases found), fun _ => by simp⟩

/-- A mutator that writes one consistent value to a symmetric set of pairs and leaves the
defaults alone keeps the matrix well formed. -/
theorem WellFormed.of_write (wellFormed : acm.WellFormed) (written : String → String → Prop)
    (symmetric : ∀ x y, written x y → written y x)
    (value : Option AllowedCollision × Option (DecideContactFn Contact))
    (consistent : value.1 = some .conditional → value.2.isSome)
    (writes : ∀ x y, written x y → acm'.pairEntry x y = value)
    (keeps : ∀ x y, ¬written x y → acm'.pairEntry x y = acm.pairEntry x y)
    (defaults : ∀ x, acm'.defaultEntry x = acm.defaultEntry x) : acm'.WellFormed := by
  have pairSymmetric : ∀ x y, acm'.pairEntry x y = acm'.pairEntry y x := by
    intro x y
    by_cases hit : written x y
    · rw [writes x y hit, writes y x (symmetric x y hit)]
    · rw [keeps x y hit, keeps y x fun back => hit (symmetric y x back)]
      exact Prod.ext (wellFormed.entriesSymmetric x y) (wellFormed.contactsSymmetric x y)
  have stored : ∀ x y, (acm'.pairEntry x y).1 = some .conditional →
      (acm'.pairEntry x y).2.isSome := by
    intro x y
    by_cases hit : written x y
    · rw [writes x y hit]
      exact consistent
    · rw [keeps x y hit]
      exact wellFormed.conditionalStored x y
  refine ⟨fun x y => congrArg Prod.fst (pairSymmetric x y),
    fun x y => congrArg Prod.snd (pairSymmetric x y), stored, fun x => ?_⟩
  obtain ⟨sameType, sameFn⟩ := Prod.mk.inj (defaults x)
  rw [getDefaultEntryFn, getDefaultEntry] at *
  rw [sameType, sameFn]
  exact wellFormed.defaultStored x

/-- Writes through the `if` form of the lookup lemmas. -/
theorem WellFormed.of_write_ite (wellFormed : acm.WellFormed) (written : String → String → Prop)
    [∀ x y, Decidable (written x y)] (symmetric : ∀ x y, written x y → written y x)
    (value : Option AllowedCollision × Option (DecideContactFn Contact))
    (consistent : value.1 = some .conditional → value.2.isSome)
    (pairs : ∀ x y, acm'.pairEntry x y = if written x y then value else acm.pairEntry x y)
    (defaults : ∀ x, acm'.defaultEntry x = acm.defaultEntry x) : acm'.WellFormed :=
  wellFormed.of_write written symmetric value consistent
    (fun x y hit => by rw [pairs, if_pos hit]) (fun x y miss => by rw [pairs, if_neg miss]) defaults

/-- A mutator of the default tables alone keeps the matrix well formed when the new defaults
are consistent. -/
theorem WellFormed.of_defaults (wellFormed : acm.WellFormed)
    (pairs : ∀ x y, acm'.pairEntry x y = acm.pairEntry x y)
    (defaults : ∀ x,
      (acm'.getDefaultEntryFn x).isSome ↔ acm'.getDefaultEntry x = some .conditional) :
    acm'.WellFormed := by
  have type : ∀ x y, acm'.getEntry x y = acm.getEntry x y :=
    fun x y => congrArg Prod.fst (pairs x y)
  have fn : ∀ x y, acm'.getEntryFn x y = acm.getEntryFn x y :=
    fun x y => congrArg Prod.snd (pairs x y)
  refine ⟨fun x y => ?_, fun x y => ?_, fun x y => ?_, defaults⟩
  · rw [type, type]
    exact wellFormed.entriesSymmetric x y
  · rw [fn, fn]
    exact wellFormed.contactsSymmetric x y
  · rw [type, fn]
    exact wellFormed.conditionalStored x y

theorem WellFormed.setEntry (wellFormed : acm.WellFormed) (name1 name2 : String)
    (allowed : Bool) : (acm.setEntry name1 name2 allowed).WellFormed :=
  wellFormed.of_write_ite (SamePair name1 name2) (fun _ _ => samePair_swap.mpr)
    (some (typeOf allowed), none)
    (fun found => absurd (Option.some.inj found) (typeOf_ne_conditional allowed))
    (fun _ _ => pairEntry_setEntry) (fun _ => rfl)

theorem WellFormed.setEntryFn (wellFormed : acm.WellFormed) (name1 name2 : String)
    (fn : DecideContactFn Contact) : (acm.setEntryFn name1 name2 fn).WellFormed :=
  wellFormed.of_write_ite (SamePair name1 name2) (fun _ _ => samePair_swap.mpr)
    (some .conditional, some fn) (fun _ => rfl) (fun _ _ => pairEntry_setEntryFn) (fun _ => rfl)

theorem WellFormed.removeEntry (wellFormed : acm.WellFormed) (name : String) :
    (acm.removeEntry name).WellFormed :=
  wellFormed.of_write_ite (fun x y => x = name ∨ y = name) (fun _ _ => Or.symm) (none, none)
    (fun found => nomatch found) (fun _ _ => pairEntry_removeEntry) (fun _ => rfl)

theorem WellFormed.removeEntryPair (wellFormed : acm.WellFormed) (name1 name2 : String) :
    (acm.removeEntryPair name1 name2).WellFormed :=
  wellFormed.of_write_ite (SamePair name1 name2) (fun _ _ => samePair_swap.mpr) (none, none)
    (fun found => nomatch found) (fun _ _ => pairEntry_removeEntryPair) (fun _ => rfl)

theorem WellFormed.setEntryToNames (wellFormed : acm.WellFormed) (name : String)
    (otherNames : List String) (allowed : Bool) :
    (acm.setEntryToNames name otherNames allowed).WellFormed :=
  List.foldlRecOn (motive := WellFormed) otherNames _ acm wellFormed
    fun _ step _ _ => by split_ifs; exacts [step.setEntry _ _ allowed, step]

theorem WellFormed.setEntryBetween (wellFormed : acm.WellFormed) (names1 names2 : List String)
    (allowed : Bool) : (acm.setEntryBetween names1 names2 allowed).WellFormed :=
  List.foldlRecOn (motive := WellFormed) names1 _ acm wellFormed
    fun _ step name1 _ => step.setEntryToNames name1 names2 allowed

theorem WellFormed.setEntryToAll (wellFormed : acm.WellFormed) (name : String)
    (allowed : Bool) : (acm.setEntryToAll name allowed).WellFormed := by
  rw [setEntryToAll_eq]
  exact List.foldlRecOn (motive := WellFormed) _ _ acm wellFormed
    fun _ step _ _ => by split_ifs; exacts [step.setEntry _ _ allowed, step]

theorem WellFormed.setEntryAll (wellFormed : acm.WellFormed) (allowed : Bool) :
    (acm.setEntryAll allowed).WellFormed := by
  refine ⟨fun x y => ?_, wellFormed.contactsSymmetric, fun x y found => ?_,
    wellFormed.defaultStored⟩
  · rw [getEntry_setEntryAll, getEntry_setEntryAll, wellFormed.entriesSymmetric x y]
  · rw [getEntry_setEntryAll] at found
    obtain ⟨_, _, rewritten⟩ := Option.map_eq_some'.mp found
    exact absurd rewritten (typeOf_ne_conditional allowed)

theorem WellFormed.setDefaultEntry (wellFormed : acm.WellFormed) (name : String)
    (allowed : Bool) : (acm.setDefaultEntry name allowed).WellFormed :=
  wellFormed.of_defaults (fun _ _ => rfl) fun x => by
    by_cases same : x = name
    · simp [same, typeOf_ne_conditional]
    · simpa [same] using wellFormed.defaultStored x

theorem WellFormed.setDefaultEntryFn (wellFormed : acm.WellFormed) (name : String)
    (fn : DecideContactFn Contact) : (acm.setDefaultEntryFn name fn).WellFormed :=
  wellFormed.of_defaults (fun _ _ => rfl) fun x => by
    by_cases same : x = name
    · simp [same]
    · simpa [same] using wellFormed.defaultStored x

theorem WellFormed.apply (wellFormed : acm.WellFormed) :
    ∀ mutator : Mutator Contact, (acm.apply mutator).WellFormed
  | .setEntry name1 name2 allowed => wellFormed.setEntry name1 name2 allowed
  | .setEntryFn name1 name2 fn => wellFormed.setEntryFn name1 name2 fn
  | .setEntryToNames name otherNames allowed => wellFormed.setEntryToNames name otherNames allowed
  | .setEntryBetween names1 names2 allowed => wellFormed.setEntryBetween names1 names2 allowed
  | .setEntryToAll name allowed => wellFormed.setEntryToAll name allowed
  | .setEntryAll allowed => wellFormed.setEntryAll allowed
  | .removeEntry name => wellFormed.removeEntry name
  | .removeEntryPair name1 name2 => wellFormed.removeEntryPair name1 name2
  | .setDefaultEntry name allowed => wellFormed.setDefaultEntry name allowed
  | .setDefaultEntryFn name fn => wellFormed.setDefaultEntryFn name fn
  | .clear => wellFormed_empty

theorem wellFormed_ofNamesFrom (allowed : Bool) (names : List String)
    (wellFormed : acm.WellFormed) : (ofNamesFrom allowed names acm).WellFormed := by
  induction names generalizing acm with
  | nil => exact wellFormed
  | cons name rest ih =>
      exact ih (List.foldlRecOn (motive := WellFormed) _ _ acm wellFormed
        fun _ step other _ => step.setEntry name other allowed)

theorem wellFormed_ofMessage (msg : AllowedCollisionMatrixMsg) :
    (ofMessage msg : AllowedCollisionMatrix Contact).WellFormed := by
  unfold ofMessage ofMessageLogged
  split_ifs
  · exact wellFormed_empty
  · refine List.foldlRecOn (motive := WellFormed) _ _ _ ?_
      fun _ step entry _ => step.setDefaultEntry entry.1 entry.2
    refine List.foldlRecOn
      (motive := fun state : AllowedCollisionMatrix Contact × List String => state.1.WellFormed)
      _ (loadMessageRow msg.entryNames) (empty, []) wellFormed_empty fun state step row _ => ?_
    unfold loadMessageRow
    split_ifs
    · exact step
    · exact List.foldlRecOn (motive := WellFormed) _ _ state.1 step
        fun _ step other _ => step.setEntry _ other.1 other.2

theorem Reachable.wellFormed (reachable : Reachable acm) : acm.WellFormed := by
  induction reachable with
  | empty => exact wellFormed_empty
  | ofNames names allowed => exact wellFormed_ofNamesFrom allowed names wellFormed_empty
  | ofMessage msg => exact wellFormed_ofMessage msg
  | copy _ ih => exact ih
  | mutate mutator _ ih => exact ih.apply mutator

theorem WellFormed.getDefaultEntryFn_eq_none (wellFormed : acm.WellFormed) {x : String}
    (other : acm.getDefaultEntry x ≠ some .conditional) : acm.getDefaultEntryFn x = none :=
  Option.not_isSome_iff_eq_none.mp fun found => other ((wellFormed.defaultStored x).mp found)

theorem WellFormed.exists_getDefaultEntryFn (wellFormed : acm.WellFormed) {x : String}
    (conditional : acm.getDefaultEntry x = some .conditional) :
    ∃ fn, acm.getDefaultEntryFn x = some fn :=
  Option.isSome_iff_exists.mp ((wellFormed.defaultStored x).mpr conditional)

/-- A name's default predicate is there exactly when its default type is `CONDITIONAL`. -/
theorem WellFormed.defaultEntryFn_cases (wellFormed : acm.WellFormed) (x : String) :
    (acm.getDefaultEntry x = some .conditional ∧ ∃ fn, acm.getDefaultEntryFn x = some fn) ∨
      (acm.getDefaultEntry x ≠ some .conditional ∧ acm.getDefaultEntryFn x = none) := by
  by_cases conditional : acm.getDefaultEntry x = some .conditional
  · exact .inl ⟨conditional, wellFormed.exists_getDefaultEntryFn conditional⟩
  · exact .inr ⟨conditional, wellFormed.getDefaultEntryFn_eq_none conditional⟩

/-- `setEntry(bool)` turns every pair, a `CONDITIONAL` one included, into `ALWAYS` or `NEVER`,
and leaves the predicate of the `CONDITIONAL` pair stored. -/
theorem setEntryAll_keeps_stale_predicate (reachable : Reachable acm) (name1 name2 : String)
    (fn : DecideContactFn Contact) (allowed : Bool) :
    Reachable ((acm.setEntryFn name1 name2 fn).setEntryAll allowed) ∧
      ((acm.setEntryFn name1 name2 fn).setEntryAll allowed).getEntry name1 name2 =
        some (typeOf allowed) ∧
      ((acm.setEntryFn name1 name2 fn).setEntryAll allowed).getEntryFn name1 name2 = some fn :=
  ⟨.mutate (.setEntryAll allowed) (.mutate (.setEntryFn name1 name2 fn) reachable),
    by simp [SamePair], by simp [SamePair]⟩

theorem stale_predicate_after_setEntryAll_true :
    Reachable (empty : AllowedCollisionMatrix Unit) ∧
      Reachable ((empty.setEntryFn "base" "arm" fun contact : Unit => (true, contact)).setEntryAll
        true) ∧
      ((empty.setEntryFn "base" "arm" fun contact : Unit => (true, contact)).setEntryAll
        true).getEntry "base" "arm" = some (typeOf true) ∧
      ((empty.setEntryFn "base" "arm" fun contact : Unit => (true, contact)).setEntryAll
        true).getEntryFn "base" "arm" = some fun contact => (true, contact) :=
  ⟨.empty, setEntryAll_keeps_stale_predicate .empty "base" "arm" _ true⟩

/-- The predicate that the defaults-first precedence of the type overload selects for the pair
`(a, b)`, as the spec words it: the pair's own predicate when neither name has a default, the
`CONDITIONAL` default's predicate when only one default is `CONDITIONAL`, and the conjunction
of both default predicates when both are. -/
def SelectsPredicate (acm : AllowedCollisionMatrix Contact) (a b : String)
    (fn : DecideContactFn Contact) : Prop :=
  (acm.getDefaultEntry a = none → acm.getDefaultEntry b = none →
    acm.getEntryFn a b = some fn) ∧
  (acm.getDefaultEntry a = some .conditional → acm.getDefaultEntry b ≠ some .conditional →
    acm.getDefaultEntryFn a = some fn) ∧
  (acm.getDefaultEntry b = some .conditional → acm.getDefaultEntry a ≠ some .conditional →
    acm.getDefaultEntryFn b = some fn) ∧
  (acm.getDefaultEntry a = some .conditional → acm.getDefaultEntry b = some .conditional →
    ∃ fn1 fn2, acm.getDefaultEntryFn a = some fn1 ∧ acm.getDefaultEntryFn b = some fn2 ∧
      fn = andDecideContact fn1 fn2)

/-- When the type overload of `getAllowedCollision` finds `CONDITIONAL`, the predicate overload
finds the predicate the same precedence selects. -/
theorem getAllowedCollisionFn_of_conditional (reachable : Reachable acm) (a b : String)
    (conditional : acm.getAllowedCollision a b = some .conditional) :
    ∃ fn, acm.getAllowedCollisionFn a b = some fn ∧ acm.SelectsPredicate a b fn := by
  have wellFormed := reachable.wellFormed
  unfold getAllowedCollisionFn SelectsPredicate
  rcases wellFormed.defaultEntryFn_cases a with ⟨hda, fn1, found1⟩ | ⟨hda, found1⟩ <;>
    rcases wellFormed.defaultEntryFn_cases b with ⟨hdb, fn2, found2⟩ | ⟨hdb, found2⟩ <;>
    rw [found1, found2]
  · exact ⟨_, rfl, by simp [hda], by simp [hdb], by simp [hda], fun _ _ => ⟨fn1, fn2, rfl, rfl, rfl⟩⟩
  · exact ⟨fn1, rfl, by simp [hda], fun _ _ => rfl, by simp [hdb], by simp [hdb]⟩
  · exact ⟨fn2, rfl, by simp [hdb], by simp [hda], fun _ _ => rfl, by simp [hda]⟩
  · -- Neither default is `CONDITIONAL`, so neither name has one, and the pair is `CONDITIONAL`.
    have noDefaults : acm.getDefaultEntry a = none ∧ acm.getDefaultEntry b = none := by
      unfold getAllowedCollision at conditional
      revert conditional hda hdb
      cases acm.getDefaultEntry a <;> cases acm.getDefaultEntry b
      case some.some t1 t2 => cases t1 <;> cases t2 <;> simp
      all_goals simp
    rw [getAllowedCollision, noDefaults.1, noDefaults.2] at conditional
    obtain ⟨fn, found⟩ := Option.isSome_iff_exists.mp (wellFormed.conditionalStored a b conditional)
    exact ⟨fn, found, fun _ _ => found, by simp [hda], by simp [hdb], by simp [hda]⟩

/-- The predicate overload reads the predicate tables alone, and an `ALWAYS` or `NEVER` default
stores no predicate, so a `NEVER` default does not win there: beside it the overload returns the
pair's own predicate, or the other name's `CONDITIONAL` default predicate, where the type overload
returns `NEVER`. -/
theorem getAllowedCollisionFn_ignores_never_default (reachable : Reachable acm) {a b : String}
    (distinct : a ≠ b) (noDefault : acm.getDefaultEntry b = none) (fn : DecideContactFn Contact) :
    Reachable ((acm.setEntryFn a b fn).setDefaultEntry a false) ∧
      ((acm.setEntryFn a b fn).setDefaultEntry a false).getAllowedCollision a b = some .never ∧
      ((acm.setEntryFn a b fn).setDefaultEntry a false).getAllowedCollisionFn a b = some fn ∧
      Reachable ((acm.setDefaultEntry a false).setDefaultEntryFn b fn) ∧
      ((acm.setDefaultEntry a false).setDefaultEntryFn b fn).getAllowedCollision a b =
        some .never ∧
      ((acm.setDefaultEntry a false).setDefaultEntryFn b fn).getAllowedCollisionFn a b =
        some fn := by
  have noDefaultFn : acm.getDefaultEntryFn b = none :=
    reachable.wellFormed.getDefaultEntryFn_eq_none (by simp [noDefault])
  refine ⟨.mutate (.setDefaultEntry a false) (.mutate (.setEntryFn a b fn) reachable), ?_, ?_,
    .mutate (.setDefaultEntryFn b fn) (.mutate (.setDefaultEntry a false) reachable), ?_, ?_⟩ <;>
    simp [getAllowedCollision, getAllowedCollisionFn, typeOf, distinct, Ne.symm distinct,
      noDefault, noDefaultFn, SamePair]

theorem never_default_beside_predicates :
    (Reachable (empty : AllowedCollisionMatrix Unit) ∧ "base" ≠ "arm" ∧
      (empty : AllowedCollisionMatrix Unit).getDefaultEntry "arm" = none) ∧
    Reachable (((empty : AllowedCollisionMatrix Unit).setEntryFn "base" "arm" fun contact =>
        (true, contact)).setDefaultEntry "base" false) ∧
      (((empty : AllowedCollisionMatrix Unit).setEntryFn "base" "arm" fun contact =>
        (true, contact)).setDefaultEntry "base" false).getAllowedCollision "base" "arm" =
        some .never ∧
      (((empty : AllowedCollisionMatrix Unit).setEntryFn "base" "arm" fun contact =>
        (true, contact)).setDefaultEntry "base" false).getAllowedCollisionFn "base" "arm" =
        some (fun contact => (true, contact)) ∧
      Reachable (((empty : AllowedCollisionMatrix Unit).setDefaultEntry "base" false).setDefaultEntryFn
        "arm" fun contact => (true, contact)) ∧
      (((empty : AllowedCollisionMatrix Unit).setDefaultEntry "base" false).setDefaultEntryFn
        "arm" fun contact => (true, contact)).getAllowedCollision "base" "arm" = some .never ∧
      (((empty : AllowedCollisionMatrix Unit).setDefaultEntry "base" false).setDefaultEntryFn
        "arm" fun contact => (true, contact)).getAllowedCollisionFn "base" "arm" =
        some fun contact => (true, contact) :=
  ⟨⟨.empty, by decide, rfl⟩,
    getAllowedCollisionFn_ignores_never_default .empty (by decide) rfl fun contact => (true, contact)⟩

end AllowedCollisionMatrix

end MoveIt.CollisionDetection
