import MoveIt.CollisionDetection.Encoding

namespace MoveIt.CollisionDetection

/-! # What the message constructor reads

The message constructor (`collision_matrix.cpp`) checks the counts of a message, then reads row
`i` for the pairs of the `i`-th name with the later names only, skipping and logging a row of the
wrong length, and last sets the defaults it lists, in order.  So, from a well-formed message with
distinct entry names, it builds the matrix whose pair of two distinct names has the flag of the
row of whichever name comes first, and whose default of a name is the last one listed for it:
the diagonal and the flags below it are never read.
-/

namespace AllowedCollisionMatrixMsg

/-- A message the constructor reads without an error: as many rows as names, as many default
values as default names, and one flag per name in every row. -/
def WellFormed (msg : AllowedCollisionMatrixMsg) : Prop :=
  msg.entryNames.length = msg.entryValues.length ∧
    msg.defaultEntryNames.length = msg.defaultEntryValues.length ∧
    ∀ entry ∈ msg.entryValues, entry.enabled.length = msg.entryNames.length

instance (msg : AllowedCollisionMatrixMsg) : Decidable msg.WellFormed :=
  inferInstanceAs (Decidable (_ ∧ _ ∧ ∀ entry ∈ msg.entryValues, _))

/-- The flag the constructor reads for the pair of names `x` and `y`: the one in the row of
whichever comes first among the entry names. -/
def upperFlag (msg : AllowedCollisionMatrixMsg) (x y : String) : Bool :=
  (msg.enabled? (min (msg.entryNames.indexOf x) (msg.entryNames.indexOf y))
    (max (msg.entryNames.indexOf x) (msg.entryNames.indexOf y))).getD false

theorem upperFlag_comm (msg : AllowedCollisionMatrixMsg) (x y : String) :
    msg.upperFlag x y = msg.upperFlag y x := by
  simp only [upperFlag, min_comm, max_comm]

end AllowedCollisionMatrixMsg

namespace AllowedCollisionMatrix

variable {Contact : Type} {x y : String}

theorem exists_mem_drop_zip {β : Type} {names : List String} {l : List β}
    (fits : names.length ≤ l.length) (k : Nat) (P : String → Prop) :
    (∃ item ∈ (names.zip l).drop k, P item.1) ↔ ∃ name ∈ names.drop k, P name := by
  rw [show names.drop k = ((names.zip l).drop k).map Prod.fst by
    rw [List.map_drop, List.map_fst_zip names l fits]]
  simp only [List.mem_map, exists_exists_and_eq_and]

theorem snd_of_mem_drop_zip {β : Type} {names : List String} {l : List β} {k : Nat}
    {item : String × β} (member : item ∈ (names.zip l).drop k) :
    ∃ j, k ≤ j ∧ names[j]? = some item.1 ∧ l[j]? = some item.2 := by
  obtain ⟨index, found⟩ := List.mem_iff_getElem?.mp member
  rw [List.getElem?_drop, List.getElem?_zip_eq_some] at found
  exact ⟨k + index, by omega, found⟩

theorem mem_drop_iff_getElem? {names : List String} {k : Nat} {name : String} :
    name ∈ names.drop k ↔ ∃ j, k ≤ j ∧ names[j]? = some name := by
  rw [List.mem_iff_getElem?]
  constructor
  · rintro ⟨index, found⟩
    exact ⟨k + index, by omega, by rwa [List.getElem?_drop] at found⟩
  · rintro ⟨j, after, found⟩
    exact ⟨j - k, by rwa [List.getElem?_drop, Nat.add_sub_cancel' after]⟩

/-- Over distinct names, a pair of a name with a later one is exactly a pair of two distinct
names. -/
theorem exists_later_pair_iff {β : Type} {names : List String} {rows : List β}
    (nodup : names.Nodup) (rowCount : rows.length = names.length) :
    (∃ row ∈ (names.zip rows).enum, ∃ other ∈ names.drop row.1.succ,
        SamePair row.2.1 other x y) ↔
      x ∈ names ∧ y ∈ names ∧ x ≠ y := by
  constructor
  · rintro ⟨⟨i, name, entry⟩, member, other, later, same⟩
    rw [List.mem_enum_iff_getElem?, List.getElem?_zip_eq_some] at member
    obtain ⟨j, after, found⟩ := mem_drop_iff_getElem?.mp later
    have named := List.getElem?_mem member.1
    have otherNamed := List.getElem?_mem found
    have differ : name ≠ other := fun equal => by
      have := List.getElem?_inj (List.getElem?_eq_some_iff.mp member.1).1 nodup
        (member.1.trans (equal ▸ found).symm)
      simp only [Nat.succ_eq_add_one] at after
      omega
    rcases same with ⟨rfl, rfl⟩ | ⟨rfl, rfl⟩
    · exact ⟨named, otherNamed, differ⟩
    · exact ⟨otherNamed, named, differ.symm⟩
  · rintro ⟨inX, inY, differ⟩
    obtain ⟨p, atP⟩ := List.mem_iff_getElem?.mp inX
    obtain ⟨q, atQ⟩ := List.mem_iff_getElem?.mp inY
    have rowAt : ∀ {i : Nat} {name : String}, names[i]? = some name →
        ∃ entry, rows[i]? = some entry := by
      intro i name found
      obtain ⟨bound, -⟩ := List.getElem?_eq_some_iff.mp found
      exact ⟨rows[i], List.getElem?_eq_getElem (by omega)⟩
    have apart : p ≠ q := fun same => differ (Option.some.inj (atP.symm.trans (same ▸ atQ)))
    rcases Nat.lt_or_gt_of_ne apart with before | after
    · obtain ⟨entry, atRow⟩ := rowAt atP
      exact ⟨(p, x, entry),
        List.mem_enum_iff_getElem?.mpr (List.getElem?_zip_eq_some.mpr ⟨atP, atRow⟩),
        y, mem_drop_iff_getElem?.mpr ⟨q, before, atQ⟩, .inl ⟨rfl, rfl⟩⟩
    · obtain ⟨entry, atRow⟩ := rowAt atQ
      exact ⟨(q, y, entry),
        List.mem_enum_iff_getElem?.mpr (List.getElem?_zip_eq_some.mpr ⟨atQ, atRow⟩),
        x, mem_drop_iff_getElem?.mpr ⟨p, after, atP⟩, .inr ⟨rfl, rfl⟩⟩

theorem length_eq_of_getElem? {α : Type} {l : List α} {n : Nat} {f : Nat → α}
    (shape : ∀ j, l[j]? = if j < n then some (f j) else none) : l.length = n := by
  apply le_antisymm
  · simpa using shape n
  · by_contra short
    simpa [Nat.lt_of_not_le short] using shape l.length

/-- A loop of `setEntry(name, other, allowed)` whose flags follow a symmetric `value` writes each
of its pairs with that value. -/
theorem pairEntry_foldl_setEntry_values (name : String) (value : String → String → Bool)
    (symm : ∀ x y, value x y = value y x) (items : List (String × Bool))
    (values : ∀ item ∈ items, item.2 = value name item.1) (acm : AllowedCollisionMatrix Contact) :
    (items.foldl (fun acm other => acm.setEntry name other.1 other.2) acm).pairEntry x y =
      if ∃ item ∈ items, SamePair name item.1 x y then (some (typeOf (value x y)), none)
      else acm.pairEntry x y := by
  induction items generalizing acm with
  | nil => simp
  | cons item rest ih =>
      rw [List.foldl_cons, ih (fun later member => values later (.tail _ member)),
        pairEntry_setEntry]
      have written : SamePair name item.1 x y → item.2 = value x y := by
        rintro (⟨rfl, rfl⟩ | ⟨rfl, rfl⟩)
        · exact values item (.head _)
        · exact (values item (.head _)).trans (symm _ _)
      by_cases hit : SamePair name item.1 x y
      · rw [written hit]
        simp only [List.mem_cons, or_and_right, exists_or, exists_eq_left, hit, true_or, if_true]
        split_ifs <;> rfl
      · simp only [List.mem_cons, or_and_right, exists_or, exists_eq_left, hit, false_or, if_false]

section Decode

variable {names : List String}

theorem loadMessageRow_of_length {i : Nat} {name : String} {entry : AllowedCollisionEntry}
    (fits : entry.enabled.length = names.length) (state : AllowedCollisionMatrix Contact × List String) :
    loadMessageRow names state (i, name, entry) =
      (((names.zip entry.enabled).drop (i + 1)).foldl
        (fun acm other => acm.setEntry name other.1 other.2) state.1, state.2) := by
  simp [loadMessageRow, fits]

/-- A row never touches a default. -/
theorem defaultEntry_loadMessageRow (state : AllowedCollisionMatrix Contact × List String)
    (row : Nat × String × AllowedCollisionEntry) (x : String) :
    (loadMessageRow names state row).1.defaultEntry x = state.1.defaultEntry x := by
  unfold loadMessageRow
  split_ifs
  · rfl
  · exact foldl_view
      (fun (acm : AllowedCollisionMatrix Contact) (other : String × Bool) =>
        acm.setEntry row.2.1 other.1 other.2) (fun acm => acm.defaultEntry x) (fun _ _ => rfl) _ _

theorem defaultEntry_foldl_loadMessageRow (rows : List (Nat × String × AllowedCollisionEntry))
    (state : AllowedCollisionMatrix Contact × List String) (x : String) :
    (rows.foldl (loadMessageRow names) state).1.defaultEntry x = state.1.defaultEntry x :=
  foldl_view (loadMessageRow names) (fun state => state.1.defaultEntry x)
    (fun state row => defaultEntry_loadMessageRow state row x) rows state

variable (value : String → String → Bool) (symm : ∀ x y, value x y = value y x)

include symm in
/-- A row of the right length whose flags follow `value` writes the pairs of its name with the
later names. -/
theorem pairEntry_loadMessageRow {i : Nat} {name : String} {entry : AllowedCollisionEntry}
    (fits : entry.enabled.length = names.length)
    (cells : ∀ j other flag, i < j → names[j]? = some other → entry.enabled[j]? = some flag →
      flag = value name other)
    (state : AllowedCollisionMatrix Contact × List String) :
    (loadMessageRow names state (i, name, entry)).1.pairEntry x y =
      if ∃ other ∈ names.drop i.succ, SamePair name other x y then
        (some (typeOf (value x y)), none)
      else state.1.pairEntry x y := by
  rw [loadMessageRow_of_length fits, pairEntry_foldl_setEntry_values name value symm _ ?_]
  · exact if_congr (exists_mem_drop_zip fits.ge (i + 1) fun other => SamePair name other x y) rfl rfl
  · intro item member
    obtain ⟨j, after, named, flagged⟩ := snd_of_mem_drop_zip member
    exact cells j item.1 item.2 (by omega) named flagged

include symm in
/-- Rows of the right length whose flags follow `value`: each writes the pairs of its name with
the later names. -/
theorem pairEntry_foldl_loadMessageRow (rows : List (Nat × String × AllowedCollisionEntry))
    (fits : ∀ row ∈ rows, row.2.2.enabled.length = names.length)
    (cells : ∀ row ∈ rows, ∀ j other flag, row.1 < j → names[j]? = some other →
      row.2.2.enabled[j]? = some flag → flag = value row.2.1 other)
    (state : AllowedCollisionMatrix Contact × List String) (x y : String) :
    (rows.foldl (loadMessageRow names) state).1.pairEntry x y =
      if ∃ row ∈ rows, ∃ other ∈ names.drop row.1.succ, SamePair row.2.1 other x y then
        (some (typeOf (value x y)), none)
      else state.1.pairEntry x y := by
  induction rows generalizing state with
  | nil => simp
  | cons row rest ih =>
      obtain ⟨i, name, entry⟩ := row
      rw [List.foldl_cons, ih (fun row member => fits row (.tail _ member))
        (fun row member => cells row (.tail _ member)),
        pairEntry_loadMessageRow value symm (fits _ (.head _)) (cells _ (.head _)) state]
      refine ite_ite_of_or ?_ _ _
      simp only [List.mem_cons, or_and_right, exists_or, exists_eq_left]
      exact or_comm

end Decode

/-- The rows loop logs, in row order, one error for each row whose length is not the number of
names, naming the row's link. -/
theorem foldl_loadMessageRow_log (names : List String)
    (rows : List (Nat × String × AllowedCollisionEntry))
    (state : AllowedCollisionMatrix Contact × List String) :
    (rows.foldl (loadMessageRow names) state).2 =
      state.2 ++ (rows.filter fun row => row.2.2.enabled.length ≠ names.length).map
        fun row => rowLengthError row.2.1 := by
  induction rows generalizing state with
  | nil => simp
  | cons row rest ih =>
      rw [List.foldl_cons, ih]
      by_cases short : row.2.2.enabled.length = names.length
      · simp [loadMessageRow, short]
      · simp [loadMessageRow, short]

/-- The value of the last entry of `entries` named `name`. -/
def lastDefault (entries : List (String × Bool)) (name : String) : Option Bool :=
  ((entries.filter fun entry => entry.1 == name).getLast?).map Prod.snd

/-- The loop of `setDefaultEntry(name, allowed)` leaves each name the last default listed for it,
and no pair changed. -/
theorem foldl_setDefaultEntry (entries : List (String × Bool))
    (acm : AllowedCollisionMatrix Contact) :
    (∀ x, (entries.foldl (fun acm entry => acm.setDefaultEntry entry.1 entry.2) acm).defaultEntry x =
        ((lastDefault entries x).map fun allowed => (some (typeOf allowed), none)).getD
          (acm.defaultEntry x)) ∧
      ∀ x y, (entries.foldl (fun acm entry => acm.setDefaultEntry entry.1 entry.2) acm).pairEntry
        x y = acm.pairEntry x y := by
  induction entries using List.reverseRecOn with
  | nil => simp [lastDefault]
  | append_singleton entries entry ih =>
      obtain ⟨defaults, pairs⟩ := ih
      rw [List.foldl_append, List.foldl_cons, List.foldl_nil]
      refine ⟨fun x => ?_, pairs⟩
      by_cases named : entry.1 = x
      · subst named
        simp [lastDefault, defaultEntry]
      · have last : lastDefault (entries ++ [entry]) x = lastDefault entries x := by
          simp [lastDefault, named]
        rw [last, ← defaults]
        simp [defaultEntry, Ne.symm named]

/-- The rows of a well-formed message with distinct entry names follow `upperFlag`. -/
theorem upperFlag_cells {msg : AllowedCollisionMatrixMsg} (distinct : msg.entryNames.Nodup)
    {row : Nat × String × AllowedCollisionEntry}
    (member : row ∈ (msg.entryNames.zip msg.entryValues).enum) (j : Nat) (other : String)
    (flag : Bool) (later : row.1 < j) (found : msg.entryNames[j]? = some other)
    (flagged : row.2.2.enabled[j]? = some flag) : flag = msg.upperFlag row.2.1 other := by
  obtain ⟨i, name, entry⟩ := row
  simp only [List.mem_enum_iff_getElem?, List.getElem?_zip_eq_some] at member
  obtain ⟨named, stored⟩ := member
  obtain ⟨bound, rfl⟩ := List.getElem?_eq_some_iff.mp named
  obtain ⟨otherBound, rfl⟩ := List.getElem?_eq_some_iff.mp found
  simp only [AllowedCollisionMatrixMsg.upperFlag, List.indexOf_getElem distinct,
    min_eq_left later.le, max_eq_right later.le, AllowedCollisionMatrixMsg.enabled?, stored,
    Option.some_bind]
  rw [flagged]
  rfl

/-- The pairs of the matrix built from a well-formed message with distinct entry names: each
pair of two distinct entry names gets `upperFlag`, as a type and with no predicate. -/
theorem pairEntry_ofMessage (msg : AllowedCollisionMatrixMsg) (wellFormed : msg.WellFormed)
    (distinct : msg.entryNames.Nodup) (x y : String) :
    (ofMessage msg : AllowedCollisionMatrix Contact).pairEntry x y =
      if x ∈ msg.entryNames ∧ y ∈ msg.entryNames ∧ x ≠ y then
        (some (typeOf (msg.upperFlag x y)), none)
      else (none, none) := by
  obtain ⟨rowCount, defaultCount, fits⟩ := wellFormed
  rw [ofMessage, ofMessageLogged, if_neg (by omega)]
  dsimp only
  rw [(foldl_setDefaultEntry _ _).2,
    pairEntry_foldl_loadMessageRow msg.upperFlag msg.upperFlag_comm _
      (fun row member => fits _ (List.of_mem_zip (List.snd_mem_of_mem_enum member)).2)
      (fun row member => upperFlag_cells distinct member)]
  simp only [exists_later_pair_iff distinct rowCount.symm]
  rfl

/-- The defaults of the matrix built from a message whose counts match: each name gets the last
default the message lists for it. -/
theorem defaultEntry_ofMessage (msg : AllowedCollisionMatrixMsg)
    (counts : msg.entryNames.length = msg.entryValues.length ∧
      msg.defaultEntryNames.length = msg.defaultEntryValues.length) (x : String) :
    (ofMessage msg : AllowedCollisionMatrix Contact).defaultEntry x =
      ((lastDefault (msg.defaultEntryNames.zip msg.defaultEntryValues) x).map fun allowed =>
        (some (typeOf allowed), none)).getD (none, none) := by
  rw [ofMessage, ofMessageLogged, if_neg (by omega)]
  dsimp only
  rw [(foldl_setDefaultEntry _ _).1, defaultEntry_foldl_loadMessageRow]
  rfl

/-- From a well-formed message with distinct entry names, the constructor builds the matrix
whose pair of two distinct entry names is the flag of the row of whichever comes first, as
`ALWAYS` or `NEVER` and with no predicate, so the diagonal and the flags below it are never read;
whose other pairs are unset; and whose default of a name is the last one the message lists. -/
theorem ofMessage_reads_upper_triangle (msg : AllowedCollisionMatrixMsg)
    (wellFormed : msg.WellFormed) (distinct : msg.entryNames.Nodup) :
    (∀ x y, (ofMessage msg : AllowedCollisionMatrix Contact).pairEntry x y =
      if x ∈ msg.entryNames ∧ y ∈ msg.entryNames ∧ x ≠ y then
        (some (typeOf (msg.upperFlag x y)), none)
      else (none, none)) ∧
    ∀ x, (ofMessage msg : AllowedCollisionMatrix Contact).defaultEntry x =
      ((lastDefault (msg.defaultEntryNames.zip msg.defaultEntryValues) x).map fun allowed =>
        (some (typeOf allowed), none)).getD (none, none) :=
  ⟨pairEntry_ofMessage msg wellFormed distinct,
    defaultEntry_ofMessage msg ⟨wellFormed.1, wellFormed.2.1⟩⟩

/-- The row of `base` says `false` for `arm`, the row of `arm` says `true` for `base`, and `arm`
is listed with two defaults. -/
theorem upper_flag_wins_in_asymmetric_message :
    let msg : AllowedCollisionMatrixMsg :=
      ⟨["base", "arm"], [⟨[true, false]⟩, ⟨[true, true]⟩], ["arm", "arm"], [true, false]⟩
    msg.WellFormed ∧ msg.entryNames.Nodup ∧
      ((∀ x y, (ofMessage msg : AllowedCollisionMatrix Unit).pairEntry x y =
        if x ∈ msg.entryNames ∧ y ∈ msg.entryNames ∧ x ≠ y then
          (some (typeOf (msg.upperFlag x y)), none)
        else (none, none)) ∧
      ∀ x, (ofMessage msg : AllowedCollisionMatrix Unit).defaultEntry x =
        ((lastDefault (msg.defaultEntryNames.zip msg.defaultEntryValues) x).map fun allowed =>
          (some (typeOf allowed), none)).getD (none, none)) ∧
      msg.upperFlag "arm" "base" = false ∧
      lastDefault (msg.defaultEntryNames.zip msg.defaultEntryValues) "arm" = some false := by
  intro msg
  have wellFormed : msg.WellFormed := by decide
  have distinct : msg.entryNames.Nodup := by decide
  exact ⟨wellFormed, distinct, ofMessage_reads_upper_triangle msg wellFormed distinct, by decide,
    by decide⟩

theorem ofMessageLogged_log_eq (msg : AllowedCollisionMatrixMsg) :
    (ofMessageLogged msg : AllowedCollisionMatrix Contact × List String).2 =
      if msg.entryNames.length ≠ msg.entryValues.length ∨
          msg.defaultEntryNames.length ≠ msg.defaultEntryValues.length then
        [countMismatchError]
      else
        ((msg.entryNames.zip msg.entryValues).filter fun row =>
          row.2.enabled.length ≠ msg.entryNames.length).map fun row => rowLengthError row.1 := by
  unfold ofMessageLogged
  split_ifs
  · rfl
  · rw [foldl_loadMessageRow_log, List.nil_append]
    conv_rhs => rw [← List.enum_map_snd (msg.entryNames.zip msg.entryValues)]
    rw [List.filter_map, List.map_map]
    rfl

theorem ofMessageLogged_log_eq_nil_iff (msg : AllowedCollisionMatrixMsg) :
    (ofMessageLogged msg : AllowedCollisionMatrix Contact × List String).2 = [] ↔
      msg.WellFormed := by
  rw [ofMessageLogged_log_eq, AllowedCollisionMatrixMsg.WellFormed]
  split_ifs with counts
  · simp only [List.cons_ne_nil, false_iff]
    omega
  · obtain ⟨rows, defaults⟩ : msg.entryNames.length = msg.entryValues.length ∧
        msg.defaultEntryNames.length = msg.defaultEntryValues.length := by omega
    rw [List.map_eq_nil_iff, List.filter_eq_nil_iff]
    simp only [decide_eq_true_eq, not_not]
    constructor
    · intro fits
      refine ⟨rows, defaults, fun entry member => ?_⟩
      obtain ⟨i, found⟩ := List.mem_iff_getElem?.mp member
      have bound := (List.getElem?_eq_some_iff.mp found).1
      exact fits (msg.entryNames[i], entry) (List.mem_iff_getElem?.mpr
        ⟨i, List.getElem?_zip_eq_some.mpr ⟨List.getElem?_eq_getElem (by omega), found⟩⟩)
    · rintro ⟨-, -, fits⟩ ⟨name, entry⟩ member
      exact fits entry (List.of_mem_zip member).2

/-- What the message constructor logs: the count error alone when the counts of the message do
not match, and otherwise the error of each row whose length is not the number of names, in row
order.  So it logs nothing exactly when the message is well formed. -/
theorem ofMessageLogged_log (msg : AllowedCollisionMatrixMsg) :
    (ofMessageLogged msg : AllowedCollisionMatrix Contact × List String).2 =
        (if msg.entryNames.length ≠ msg.entryValues.length ∨
            msg.defaultEntryNames.length ≠ msg.defaultEntryValues.length then
          [countMismatchError]
        else
          ((msg.entryNames.zip msg.entryValues).filter fun row =>
            row.2.enabled.length ≠ msg.entryNames.length).map fun row => rowLengthError row.1) ∧
      ((ofMessageLogged msg : AllowedCollisionMatrix Contact × List String).2 = [] ↔
        msg.WellFormed) :=
  ⟨ofMessageLogged_log_eq msg, ofMessageLogged_log_eq_nil_iff msg⟩

end AllowedCollisionMatrix

end MoveIt.CollisionDetection
