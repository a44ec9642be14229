import MoveIt.CollisionDetection.Decoding
import MoveIt.CollisionDetection.Reachable

namespace MoveIt.CollisionDetection

/-! # Sending a matrix and reading it back

`getMessage` sends the type of each pair of entry names, the keys of the pairwise table, as a
flag set for `ALWAYS` only, and the defaults of those names only.  Read back with the message
constructor, a reachable matrix keeps which pairs of two distinct entry names are `ALWAYS`, and
every other pair of them comes back `NEVER`, with no predicate.  A pair of a name with itself
does not come back, and neither does a default set on a name without a pairwise entry; the
latter changes what the matrix allows.
-/

namespace AllowedCollisionMatrix

variable {Contact : Type} {acm : AllowedCollisionMatrix Contact} {x y : String}

@[simp] theorem typeOf_eq_always (allowed : Bool) : typeOf allowed = .always ↔ allowed = true := by
  cases allowed <;> simp [typeOf]

theorem getD_indexOf {names : List String} (member : x ∈ names) :
    names.getD (names.indexOf x) "" = x := by
  rw [List.getD_eq_getElem?_getD, List.getElem?_eq_getElem (List.indexOf_lt_length.mpr member),
    Option.getD_some, List.getElem_indexOf]

theorem getMessage_entryNames (acm : AllowedCollisionMatrix Contact) :
    acm.getMessage.entryNames = acm.messageNames :=
  acm.getMessage_spec.1

/-- `getMessage` sends well-formed messages. -/
theorem getMessage_wellFormed (acm : AllowedCollisionMatrix Contact) :
    acm.getMessage.WellFormed := by
  obtain ⟨entryNames, rowCount, cells, defaultLength, -⟩ := acm.getMessage_spec
  refine ⟨entryNames ▸ rowCount.symm, defaultLength, fun entry member => ?_⟩
  obtain ⟨i, stored⟩ := List.mem_iff_getElem?.mp member
  have inRange : i < acm.messageNames.length := rowCount ▸ (List.getElem?_eq_some_iff.mp stored).1
  rw [entryNames]
  exact length_eq_of_getElem? fun j => by
    simpa [AllowedCollisionMatrixMsg.enabled?, stored, inRange] using cells i j

/-- On a well-formed matrix, the flag the constructor reads back for two entry names says
whether their pair is `ALWAYS`. -/
theorem WellFormed.upperFlag_getMessage (wellFormed : acm.WellFormed) (inX : x ∈ acm.entries)
    (inY : y ∈ acm.entries) : acm.getMessage.upperFlag x y = (acm.getEntry x y == some .always) := by
  obtain ⟨entryNames, -, cells, -⟩ := acm.getMessage_spec
  have named : ∀ {z}, z ∈ acm.entries → acm.messageNames.indexOf z < acm.messageNames.length ∧
      acm.messageNames.getD (acm.messageNames.indexOf z) "" = z := fun member =>
    ⟨List.indexOf_lt_length.mpr (mem_messageNames.mpr member),
      getD_indexOf (mem_messageNames.mpr member)⟩
  unfold AllowedCollisionMatrixMsg.upperFlag
  rw [entryNames, cells]
  rcases le_total (acm.messageNames.indexOf x) (acm.messageNames.indexOf y) with before | after
  · simp only [min_eq_left before, max_eq_right before, (named inX).1, (named inY).1, and_self,
      if_true, Option.getD_some, messageCell, (named inX).2, (named inY).2]
  · simp only [min_eq_right after, max_eq_left after, (named inX).1, (named inY).1, and_self,
      if_true, Option.getD_some, messageCell, min_eq_left after, max_eq_right after,
      (named inX).2, (named inY).2, wellFormed.entriesSymmetric y x]

/-- Over distinct names, the defaults `getMessage` lists that are named `x` are the one of `x`,
if it is among the names and has one. -/
theorem filter_filterMap_defaultPair (acm : AllowedCollisionMatrix Contact) {names : List String}
    (distinct : names.Nodup) (x : String) :
    (names.filterMap acm.defaultPair).filter (fun entry => entry.1 == x) =
      if x ∈ names then (acm.defaultPair x).toList else [] := by
  induction names with
  | nil => simp
  | cons name rest ih =>
      obtain ⟨fresh, restDistinct⟩ := List.nodup_cons.mp distinct
      have first : ∀ entry, acm.defaultPair name = some entry → entry.1 = name := by
        intro entry found
        simp only [defaultPair, Option.map_eq_some'] at found
        obtain ⟨_, -, rfl⟩ := found
        rfl
      cases found : acm.defaultPair name with
      | none =>
          simp only [List.filterMap_cons, found, ih restDistinct, List.mem_cons]
          by_cases same : name = x
          · subst same
            simp [fresh, found]
          · simp [Ne.symm same]
      | some entry =>
          simp only [List.filterMap_cons, found, List.filter_cons, ih restDistinct, List.mem_cons,
            first entry found]
          by_cases same : name = x
          · subst same
            simp [fresh, found]
          · simp [same, Ne.symm same]

/-- The default the constructor reads back for a name from the message `getMessage` sends. -/
theorem lastDefault_getMessage (acm : AllowedCollisionMatrix Contact) (x : String) :
    lastDefault (acm.getMessage.defaultEntryNames.zip acm.getMessage.defaultEntryValues) x =
      if x ∈ acm.entries then (acm.getDefaultEntry x).map (· == .always) else none := by
  rw [acm.getMessage_spec.2.2.2.2, lastDefault,
    filter_filterMap_defaultPair acm (messageNames_nodup acm)]
  simp only [mem_messageNames]
  split_ifs
  · cases found : acm.getDefaultEntry x <;> simp [defaultPair, found]
  · rfl

/-- A name that is not a key of the pairwise table is in no pair. -/
theorem WellFormed.getEntry_eq_none (wellFormed : acm.WellFormed)
    (missing : x ∉ acm.entries ∨ y ∉ acm.entries) : acm.getEntry x y = none := by
  have unpaired : ∀ {x y}, x ∉ acm.entries → acm.getEntry x y = none := fun missing =>
    Option.eq_none_iff_forall_not_mem.mpr fun _ found => missing (Data.NameMap.mem_of_lookup₂ found)
  rcases missing with missing | missing
  · exact unpaired missing
  · rw [wellFormed.entriesSymmetric]
    exact unpaired missing

theorem WellFormed.pairEntry_ofMessage_getMessage (wellFormed : acm.WellFormed) (x y : String) :
    (ofMessage acm.getMessage : AllowedCollisionMatrix Contact).pairEntry x y =
      if x ∈ acm.entries ∧ y ∈ acm.entries ∧ x ≠ y then
        (some (typeOf (acm.getEntry x y == some .always)), none)
      else (none, none) := by
  rw [pairEntry_ofMessage _ (getMessage_wellFormed acm)
    (by rw [getMessage_entryNames]; exact messageNames_nodup acm)]
  simp only [getMessage_entryNames, mem_messageNames]
  split_ifs with named
  · rw [wellFormed.upperFlag_getMessage named.1 named.2.1]
  · rfl

theorem defaultEntry_ofMessage_getMessage (acm : AllowedCollisionMatrix Contact) (x : String) :
    (ofMessage acm.getMessage : AllowedCollisionMatrix Contact).defaultEntry x =
      if x ∈ acm.entries then ((acm.getDefaultEntry x).map fun t => typeOf (t == .always), none)
      else (none, none) := by
  obtain ⟨counts, defaultCounts, -⟩ := getMessage_wellFormed acm
  rw [defaultEntry_ofMessage _ ⟨counts, defaultCounts⟩, lastDefault_getMessage]
  split_ifs
  · cases acm.getDefaultEntry x <;> rfl
  · rfl

/-- Read back with the message constructor, the message a reachable matrix sends logs nothing.
A pair of two distinct entry names comes back `ALWAYS` if it was `ALWAYS` and `NEVER` otherwise,
with no predicate; the default of an entry name comes back the same way; nothing else comes
back. -/
theorem getMessage_round_trip (reachable : Reachable acm) :
    (ofMessageLogged acm.getMessage : AllowedCollisionMatrix Contact × List String).2 = [] ∧
      (∀ x y, (ofMessage acm.getMessage : AllowedCollisionMatrix Contact).pairEntry x y =
        if x ∈ acm.entries ∧ y ∈ acm.entries ∧ x ≠ y then
          (some (typeOf (acm.getEntry x y == some .always)), none)
        else (none, none)) ∧
      ∀ x, (ofMessage acm.getMessage : AllowedCollisionMatrix Contact).defaultEntry x =
        if x ∈ acm.entries then ((acm.getDefaultEntry x).map fun t => typeOf (t == .always), none)
        else (none, none) :=
  ⟨(ofMessageLogged_log_eq_nil_iff _).mpr (getMessage_wellFormed acm),
    reachable.wellFormed.pairEntry_ofMessage_getMessage,
    defaultEntry_ofMessage_getMessage acm⟩

theorem round_trip_of_conditional_pair :
    let acm := ((empty : AllowedCollisionMatrix Unit).setEntryFn "base" "arm" fun contact =>
      (true, contact)).setDefaultEntry "arm" true
    Reachable acm ∧
      (ofMessageLogged acm.getMessage : AllowedCollisionMatrix Unit × List String).2 = [] ∧
      (∀ x y, (ofMessage acm.getMessage : AllowedCollisionMatrix Unit).pairEntry x y =
        if x ∈ acm.entries ∧ y ∈ acm.entries ∧ x ≠ y then
          (some (typeOf (acm.getEntry x y == some .always)), none)
        else (none, none)) ∧
      ∀ x, (ofMessage acm.getMessage : AllowedCollisionMatrix Unit).defaultEntry x =
        if x ∈ acm.entries then ((acm.getDefaultEntry x).map fun t => typeOf (t == .always), none)
        else (none, none) :=
  have reachable := Reachable.mutate (.setDefaultEntry "arm" true)
    (.mutate (.setEntryFn "base" "arm" fun contact => (true, contact)) .empty)
  ⟨reachable, getMessage_round_trip reachable⟩

/-- When every name with a default is a key of the pairwise table, the round trip keeps which
pairs of two distinct names a reachable matrix allows always. -/
theorem getMessage_keeps_always_pairs (reachable : Reachable acm)
    (defaultsPaired : ∀ name, (acm.getDefaultEntry name).isSome → name ∈ acm.entries)
    {a b : String} (distinct : a ≠ b) :
    (ofMessage acm.getMessage : AllowedCollisionMatrix Contact).getAllowedCollision a b =
        some .always ↔
      acm.getAllowedCollision a b = some .always := by
  have wellFormed := reachable.wellFormed
  have defaults : ∀ x, (ofMessage acm.getMessage : AllowedCollisionMatrix Contact).getDefaultEntry x =
      (acm.getDefaultEntry x).map fun t => typeOf (t == .always) := fun x => by
    have read := congrArg Prod.fst (defaultEntry_ofMessage_getMessage acm x)
    by_cases named : x ∈ acm.entries
    · simpa [named] using read
    · have none : acm.getDefaultEntry x = none :=
        Option.not_isSome_iff_eq_none.mp (mt (defaultsPaired x) named)
      simpa [named, none] using read
  have pair := congrArg Prod.fst (wellFormed.pairEntry_ofMessage_getMessage a b)
  dsimp only [pairEntry] at pair
  unfold getAllowedCollision
  rw [defaults, defaults]
  cases acm.getDefaultEntry a <;> cases acm.getDefaultEntry b
  case none.none =>
    simp only [Option.map_none]
    split_ifs at pair with named
    · simp [pair]
    · have missing : a ∉ acm.entries ∨ b ∉ acm.entries :=
        not_and_or.mp fun both => named ⟨both.1, both.2, distinct⟩
      simp [pair, wellFormed.getEntry_eq_none missing]
  case some.some t1 t2 => cases t1 <;> cases t2 <;> simp [typeOf]
  all_goals simp

theorem always_pair_kept_beside_paired_default :
    let acm := ((empty : AllowedCollisionMatrix Unit).setEntryFn "base" "arm" fun contact =>
      (true, contact)).setDefaultEntry "arm" true
    Reachable acm ∧ (∀ name, (acm.getDefaultEntry name).isSome → name ∈ acm.entries) ∧
      "base" ≠ "arm" ∧
      ((ofMessage acm.getMessage : AllowedCollisionMatrix Unit).getAllowedCollision "base" "arm" =
          some .always ↔
        acm.getAllowedCollision "base" "arm" = some .always) := by
  intro acm
  have reachable : Reachable acm := .mutate (.setDefaultEntry "arm" true)
    (.mutate (.setEntryFn "base" "arm" fun contact => (true, contact)) .empty)
  have paired : ∀ name, (acm.getDefaultEntry name).isSome → name ∈ acm.entries := by
    intro name found
    simp only [acm, getDefaultEntry_setDefaultEntry, getDefaultEntry_setEntryFn,
      getDefaultEntry_empty] at found
    split_ifs at found with arm
    · subst arm
      decide
    · simp at found
  exact ⟨reachable, paired, by decide, getMessage_keeps_always_pairs reachable paired (by decide)⟩

/-- An `ALWAYS` default on a name without a pairwise entry. -/
def unpairedAlwaysDefault : AllowedCollisionMatrix Unit := empty.setDefaultEntry "x" true

/-- A `NEVER` default on a name without a pairwise entry, beside an `ALWAYS` default on a name
with one. -/
def unpairedNeverDefault : AllowedCollisionMatrix Unit :=
  ((empty.setEntry "a" "c" false).setDefaultEntry "a" true).setDefaultEntry "b" false

/-- A default on a name with no pairwise entry does not survive the message: an `ALWAYS` pair
is lost, and a pair that the dropped `NEVER` default forbade comes back `ALWAYS`. -/
theorem getMessage_drops_unpaired_defaults :
    Reachable unpairedAlwaysDefault ∧
      unpairedAlwaysDefault.getAllowedCollision "x" "y" = some .always ∧
      (ofMessage unpairedAlwaysDefault.getMessage : AllowedCollisionMatrix Unit).getAllowedCollision
        "x" "y" = none ∧
    Reachable unpairedNeverDefault ∧
      unpairedNeverDefault.getAllowedCollision "a" "b" = some .never ∧
      (ofMessage unpairedNeverDefault.getMessage : AllowedCollisionMatrix Unit).getAllowedCollision
        "a" "b" = some .always :=
  ⟨.mutate (.setDefaultEntry "x" true) .empty, by decide, by decide,
    .mutate (.setDefaultEntry "b" false)
      (.mutate (.setDefaultEntry "a" true) (.mutate (.setEntry "a" "c" false) .empty)),
    by decide, by decide⟩

/-! ## A second round trip

The constructor sets a pair of names only together with its mirror, so every key of the
pairwise table it builds is in a pair.  Hence, read back from the message of a matrix in which
no entry name stands alone, the keys are the entry names again, and a second round trip reads
back the same pairs and defaults: the loss of the first is all there is. -/

/-- Every key of the pairwise table is in a pair. -/
def KeysPaired (acm : AllowedCollisionMatrix Contact) : Prop :=
  ∀ x ∈ acm.entries, ∃ y, (acm.getEntry x y).isSome

theorem KeysPaired.setEntry (paired : acm.KeysPaired) (name1 name2 : String) (allowed : Bool) :
    (acm.setEntry name1 name2 allowed).KeysPaired := by
  intro x member
  simp only [AllowedCollisionMatrix.setEntry, Data.NameMap.mem_insert₂] at member
  rcases member with rfl | rfl | member
  · exact ⟨name2, by simp [SamePair]⟩
  · exact ⟨name1, by simp [SamePair]⟩
  · obtain ⟨y, found⟩ := paired x member
    exact ⟨y, by rw [getEntry_setEntry]; split_ifs <;> simp [found]⟩

theorem keysPaired_ofMessage (msg : AllowedCollisionMatrixMsg) :
    (ofMessage msg : AllowedCollisionMatrix Contact).KeysPaired := by
  have emptyPaired : (empty : AllowedCollisionMatrix Contact).KeysPaired := fun _ member =>
    absurd member (AList.not_mem_empty _)
  unfold ofMessage ofMessageLogged
  split_ifs
  · exact emptyPaired
  · -- setting a default leaves the pairwise table as it is
    refine List.foldlRecOn (motive := KeysPaired) _ _ _ ?_ fun _ step _ _ => step
    refine List.foldlRecOn
      (motive := fun state : AllowedCollisionMatrix Contact × List String => state.1.KeysPaired)
      _ (loadMessageRow msg.entryNames) (empty, []) emptyPaired fun state step row _ => ?_
    unfold loadMessageRow
    split_ifs
    · exact step
    · exact List.foldlRecOn (motive := KeysPaired) _ _ state.1 step
        fun _ step other _ => step.setEntry _ other.1 other.2

/-- When no entry name stands alone, the keys of the table read back are the entry names. -/
theorem WellFormed.mem_entries_ofMessage_getMessage (wellFormed : acm.WellFormed)
    (noLoneName : ∀ a ∈ acm.entries, ∃ b ∈ acm.entries, a ≠ b) (x : String) :
    x ∈ (ofMessage acm.getMessage : AllowedCollisionMatrix Contact).entries ↔ x ∈ acm.entries := by
  have pair : ∀ y, (ofMessage acm.getMessage : AllowedCollisionMatrix Contact).getEntry x y =
      if x ∈ acm.entries ∧ y ∈ acm.entries ∧ x ≠ y then
        some (typeOf (acm.getEntry x y == some .always))
      else none := fun y => by
    simpa only [pairEntry, apply_ite Prod.fst] using
      congrArg Prod.fst (wellFormed.pairEntry_ofMessage_getMessage x y)
  constructor
  · intro member
    obtain ⟨y, found⟩ := keysPaired_ofMessage _ x member
    rw [pair] at found
    split_ifs at found with named
    · exact named.1
    · simp at found
  · intro member
    obtain ⟨b, inB, other⟩ := noLoneName x member
    have found := pair b
    rw [if_pos ⟨member, inB, other⟩] at found
    exact Data.NameMap.mem_of_lookup₂ found

@[simp] theorem typeOf_beq_always (allowed : Bool) : (typeOf allowed == .always) = allowed := by
  cases allowed <;> rfl

/-- When no entry name of a reachable matrix stands alone, a second round trip reads back the
same pairs and defaults as the first. -/
theorem getMessage_round_trip_idempotent (reachable : Reachable acm)
    (noLoneName : ∀ a ∈ acm.entries, ∃ b ∈ acm.entries, a ≠ b) :
    (∀ x y, (ofMessage (ofMessage acm.getMessage : AllowedCollisionMatrix Contact).getMessage :
        AllowedCollisionMatrix Contact).pairEntry x y =
      (ofMessage acm.getMessage : AllowedCollisionMatrix Contact).pairEntry x y) ∧
    ∀ x, (ofMessage (ofMessage acm.getMessage : AllowedCollisionMatrix Contact).getMessage :
        AllowedCollisionMatrix Contact).defaultEntry x =
      (ofMessage acm.getMessage : AllowedCollisionMatrix Contact).defaultEntry x := by
  have wellFormed := reachable.wellFormed
  have once : (ofMessage acm.getMessage : AllowedCollisionMatrix Contact).WellFormed :=
    wellFormed_ofMessage _
  have keys := wellFormed.mem_entries_ofMessage_getMessage noLoneName
  refine ⟨fun x y => ?_, fun x => ?_⟩
  · have pair := congrArg Prod.fst (wellFormed.pairEntry_ofMessage_getMessage x y)
    rw [once.pairEntry_ofMessage_getMessage, wellFormed.pairEntry_ofMessage_getMessage]
    simp only [keys]
    split_ifs with named
    · simp only [pairEntry, if_pos named] at pair
      simp [pair]
    · rfl
  · have default := congrArg Prod.fst (defaultEntry_ofMessage_getMessage acm x)
    rw [defaultEntry_ofMessage_getMessage, defaultEntry_ofMessage_getMessage]
    simp only [keys]
    split_ifs with named
    · simp only [defaultEntry, if_pos named] at default
      rw [default]
      cases acm.getDefaultEntry x <;> simp
    · rfl

/-- A matrix whose entry names are two, and one whose only entry name is paired with itself: the
second loses its default in the first round trip, and the default it then still holds in the
second. -/
theorem round_trip_settles_unless_lone_name :
    let acm := ((empty : AllowedCollisionMatrix Unit).setEntry "base" "arm" true).setDefaultEntry
      "arm" false
    let lone := ((empty : AllowedCollisionMatrix Unit).setEntry "arm" "arm" true).setDefaultEntry
      "arm" true
    Reachable acm ∧ (∀ a ∈ acm.entries, ∃ b ∈ acm.entries, a ≠ b) ∧
      ((∀ x y, (ofMessage (ofMessage acm.getMessage : AllowedCollisionMatrix Unit).getMessage :
          AllowedCollisionMatrix Unit).pairEntry x y =
        (ofMessage acm.getMessage : AllowedCollisionMatrix Unit).pairEntry x y) ∧
      ∀ x, (ofMessage (ofMessage acm.getMessage : AllowedCollisionMatrix Unit).getMessage :
          AllowedCollisionMatrix Unit).defaultEntry x =
        (ofMessage acm.getMessage : AllowedCollisionMatrix Unit).defaultEntry x) ∧
      (ofMessage lone.getMessage : AllowedCollisionMatrix Unit).getDefaultEntry "arm" =
        some .always ∧
      (ofMessage (ofMessage lone.getMessage : AllowedCollisionMatrix Unit).getMessage :
        AllowedCollisionMatrix Unit).getDefaultEntry "arm" = none := by
  intro acm lone
  have reachable : Reachable acm :=
    .mutate (.setDefaultEntry "arm" false) (.mutate (.setEntry "base" "arm" true) .empty)
  have noLoneName : ∀ a ∈ acm.entries, ∃ b ∈ acm.entries, a ≠ b := by
    intro a member
    simp only [acm, AllowedCollisionMatrix.setDefaultEntry, AllowedCollisionMatrix.setEntry,
      Data.NameMap.mem_insert₂] at member ⊢
    rcases member with rfl | rfl | member
    · exact ⟨"arm", by simp, by decide⟩
    · exact ⟨"base", by simp, by decide⟩
    · exact absurd member (AList.not_mem_empty _)
  exact ⟨reachable, noLoneName, getMessage_round_trip_idempotent reachable noLoneName, by decide,
    by decide⟩

end AllowedCollisionMatrix

end MoveIt.CollisionDetection
