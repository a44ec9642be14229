import MoveIt.CollisionDetection.Message

namespace MoveIt.CollisionDetection

/-! # What `getMessage` sends

`getMessage` fills a square matrix over the sorted entry names row by row: row `i` writes the
cells `(i, j)` and `(j, i)` for `j ≥ i`.  Tracked cell by cell through both loops, the matrix it
sends holds in cell `(i, j)` whether the pair of the `i`-th and the `j`-th name, the one with the
smaller index first, is `ALWAYS`; the defaults it sends are those of the entry names.  The
names it sends are the keys of the pairwise table, each once.
-/

namespace AllowedCollisionMatrixMsg

/-- The cell `entry_values[i].enabled[j]`, where it exists. -/
def enabled? (msg : AllowedCollisionMatrixMsg) (i j : Nat) : Option Bool :=
  msg.entryValues[i]?.bind (·.enabled[j]?)

theorem enabled?_setEnabled (msg : AllowedCollisionMatrixMsg) (i j : Nat) (value : Bool) (k l : Nat) :
    (msg.setEnabled i j value).enabled? k l =
      if k = i ∧ l = j then (msg.enabled? k l).map fun _ => value else msg.enabled? k l := by
  unfold enabled? setEnabled
  simp only [List.getElem?_modify]
  by_cases row : k = i
  · subst row
    cases msg.entryValues[k]? with
    | none => simp
    | some entry =>
        by_cases col : l = j
        · subst col
          simp [List.getElem?_set']
          rfl
        · simp [col, Ne.symm col]
  · simp [row, Ne.symm row]

@[simp] theorem setEnabled_entryNames (msg : AllowedCollisionMatrixMsg) (i j : Nat) (value : Bool) :
    (msg.setEnabled i j value).entryNames = msg.entryNames := rfl

@[simp] theorem setEnabled_entryValues_length (msg : AllowedCollisionMatrixMsg) (i j : Nat)
    (value : Bool) : (msg.setEnabled i j value).entryValues.length = msg.entryValues.length :=
  List.length_modify _ _ _

@[simp] theorem setEnabled_defaultEntryNames (msg : AllowedCollisionMatrixMsg) (i j : Nat)
    (value : Bool) : (msg.setEnabled i j value).defaultEntryNames = msg.defaultEntryNames := rfl

@[simp] theorem setEnabled_defaultEntryValues (msg : AllowedCollisionMatrixMsg) (i j : Nat)
    (value : Bool) : (msg.setEnabled i j value).defaultEntryValues = msg.defaultEntryValues := rfl

end AllowedCollisionMatrixMsg

namespace AllowedCollisionMatrix

variable {Contact : Type} (acm : AllowedCollisionMatrix Contact) (names : List String)

/-- The cell `(i, j)` that `getMessage` writes over `names`: whether the pair of the `min i j`-th
and the `max i j`-th name is `ALWAYS`. -/
def messageCell (i j : Nat) : Bool :=
  acm.getEntry (names.getD (min i j) "") (names.getD (max i j) "") == some .always

theorem messageCell_comm (i j : Nat) : acm.messageCell names i j = acm.messageCell names j i := by
  simp only [messageCell, min_comm, max_comm]

/-- The cells of a message over `names` once the rows before `r`, and the columns before `c`
of row `r`, are written. -/
def CellsWritten (r c : Nat) (msg : AllowedCollisionMatrixMsg) : Prop :=
  ∀ i j, msg.enabled? i j =
    if i < names.length ∧ j < names.length then
      some (if min i j < r ∨ (min i j = r ∧ max i j < c) then acm.messageCell names i j else false)
    else none

variable {acm names} {msg : AllowedCollisionMatrixMsg} {r c : Nat}

theorem setMessagePair_cellsWritten (le : r ≤ c) (lt : c < names.length)
    (written : acm.CellsWritten names r c msg) :
    acm.CellsWritten names r (c + 1)
      (acm.setMessagePair (r, names.getD r "") msg (c, names.getD c "")) := by
  intro i j
  have pairCell : acm.messageCell names r c =
      (acm.getEntry (names.getD r "") (names.getD c "") == some .always) := by
    simp only [messageCell, min_eq_left le, max_eq_right le]
  by_cases hit : (i = r ∧ j = c) ∨ (i = c ∧ j = r)
  · have range : i < names.length ∧ j < names.length := by omega
    have value : acm.messageCell names i j = acm.messageCell names r c := by
      rcases hit with ⟨rfl, rfl⟩ | ⟨rfl, rfl⟩
      · rfl
      · exact messageCell_comm acm names _ _
    have old := written i j
    have notYet : ¬(min i j < r ∨ (min i j = r ∧ max i j < c)) := by omega
    rw [if_pos range, if_neg notYet] at old
    rw [if_pos range, if_pos (by omega), value, pairCell]
    unfold setMessagePair
    cases found : acm.getEntry (names.getD r "") (names.getD c "") with
    | none => simpa using old
    | some type =>
        have cell : (some type == some AllowedCollision.always) = (type == .always) := rfl
        rw [cell]
        simp only [AllowedCollisionMatrixMsg.enabled?_setEnabled]
        rcases hit with ⟨rfl, rfl⟩ | ⟨rfl, rfl⟩ <;> split_ifs <;> first | omega | simp [old]
  · have same : (min i j < r ∨ (min i j = r ∧ max i j < c + 1)) ↔
        (min i j < r ∨ (min i j = r ∧ max i j < c)) := by omega
    unfold setMessagePair
    cases acm.getEntry (names.getD r "") (names.getD c "") with
    | none => simp only [written i j, same]
    | some type =>
        simp only [AllowedCollisionMatrixMsg.enabled?_setEnabled, written i j, same]
        rw [if_neg (by omega), if_neg (by omega)]

theorem cellsWritten_of_iff {r c r' c' : Nat} (written : acm.CellsWritten names r c msg)
    (same : ∀ i j, i < names.length → j < names.length →
      ((min i j < r ∨ (min i j = r ∧ max i j < c)) ↔
        (min i j < r' ∨ (min i j = r' ∧ max i j < c')))) :
    acm.CellsWritten names r' c' msg := by
  intro i j
  rw [written i j]
  by_cases range : i < names.length ∧ j < names.length
  · rw [if_pos range, if_pos range]
    exact congrArg some (if_congr (same i j range.1 range.2) rfl rfl)
  · rw [if_neg range, if_neg range]

theorem enum_drop_eq_cons {c : Nat} (lt : c < names.length) :
    names.enum.drop c = (c, names.getD c "") :: names.enum.drop (c + 1) := by
  rw [List.drop_eq_getElem_cons (by simpa using lt)]
  simp [List.getElem?_eq_getElem lt]

/-- The columns `c, c + 1, …` of row `r` complete the row. -/
theorem foldl_setMessagePair_cellsWritten (le : r ≤ c) (upper : c ≤ names.length)
    (written : acm.CellsWritten names r c msg) :
    acm.CellsWritten names r names.length
      ((names.enum.drop c).foldl (acm.setMessagePair (r, names.getD r "")) msg) := by
  obtain ⟨remaining, count⟩ : ∃ remaining, names.length - c = remaining := ⟨_, rfl⟩
  induction remaining generalizing c msg with
  | zero =>
      have last : c = names.length := by omega
      subst last
      rwa [List.drop_eq_nil_of_le (by simp)]
  | succ k ih =>
      rw [enum_drop_eq_cons (by omega), List.foldl_cons]
      exact ih (by omega) (by omega) (setMessagePair_cellsWritten (by omega) (by omega) written)
        (by omega)

/-- A loop whose body keeps `view` keeps it. -/
theorem foldl_view {α β γ : Type} (step : β → α → β) (view : β → γ)
    (keeps : ∀ b a, view (step b a) = view b) :
    ∀ (l : List α) (b : β), view (l.foldl step b) = view b
  | [], _ => rfl
  | a :: l, b => (foldl_view step view keeps l (step b a)).trans (keeps b a)

variable (acm) in
/-- The default entry `getMessage` sends for `name`, if it has one. -/
def defaultPair (name : String) : Option (String × Bool) :=
  (acm.getDefaultEntry name).map fun dtype => (name, dtype == .always)

theorem setMessagePair_frame (row column : Nat × String) :
    (acm.setMessagePair row msg column).entryNames = msg.entryNames ∧
      (acm.setMessagePair row msg column).entryValues.length = msg.entryValues.length ∧
      (acm.setMessagePair row msg column).defaultEntryNames = msg.defaultEntryNames ∧
      (acm.setMessagePair row msg column).defaultEntryValues = msg.defaultEntryValues := by
  unfold setMessagePair
  split <;> simp

theorem pushDefaultEntry_enabled? (name : String) :
    (acm.pushDefaultEntry msg name).enabled? = msg.enabled? := by
  unfold pushDefaultEntry
  split <;> rfl

variable (acm) in
theorem pushDefaultEntry_defaults (name : String)
    (sameLength : msg.defaultEntryNames.length = msg.defaultEntryValues.length) :
    (acm.pushDefaultEntry msg name).defaultEntryNames.length =
        (acm.pushDefaultEntry msg name).defaultEntryValues.length ∧
      (acm.pushDefaultEntry msg name).defaultEntryNames.zip
          (acm.pushDefaultEntry msg name).defaultEntryValues =
        msg.defaultEntryNames.zip msg.defaultEntryValues ++ (acm.defaultPair name).toList := by
  unfold pushDefaultEntry defaultPair
  split <;> simp_all [List.zip_append]

/-- Row `r` of `getMessage` writes the cells whose smaller index is `r`. -/
theorem getMessageRow_cellsWritten (lt : r < names.length)
    (written : acm.CellsWritten names r r msg) :
    acm.CellsWritten names (r + 1) (r + 1) (acm.getMessageRow names msg (r, names.getD r "")) := by
  have pushed : acm.CellsWritten names r r (acm.pushDefaultEntry msg (names.getD r "")) := by
    unfold CellsWritten
    rw [pushDefaultEntry_enabled?]
    exact written
  exact cellsWritten_of_iff (foldl_setMessagePair_cellsWritten le_rfl lt.le pushed)
    fun i j _ _ => by omega

theorem pushDefaultEntry_frame (name : String) :
    (acm.pushDefaultEntry msg name).entryNames = msg.entryNames ∧
      (acm.pushDefaultEntry msg name).entryValues.length = msg.entryValues.length := by
  unfold pushDefaultEntry
  split <;> exact ⟨rfl, rfl⟩

variable (acm names) in
/-- A row of `getMessage` keeps the names and the row count, and appends the default of its
name. -/
theorem getMessageRow_frame (row : Nat × String)
    (sameLength : msg.defaultEntryNames.length = msg.defaultEntryValues.length) :
    (acm.getMessageRow names msg row).entryNames = msg.entryNames ∧
      (acm.getMessageRow names msg row).entryValues.length = msg.entryValues.length ∧
      (acm.getMessageRow names msg row).defaultEntryNames.length =
        (acm.getMessageRow names msg row).defaultEntryValues.length ∧
      (acm.getMessageRow names msg row).defaultEntryNames.zip
          (acm.getMessageRow names msg row).defaultEntryValues =
        msg.defaultEntryNames.zip msg.defaultEntryValues ++ (acm.defaultPair row.2).toList := by
  have columns := foldl_view (acm.setMessagePair row)
    (fun msg => (msg.entryNames, msg.entryValues.length, msg.defaultEntryNames,
      msg.defaultEntryValues))
    (fun msg column => by simp only [setMessagePair_frame]) (names.enum.drop row.1)
    (acm.pushDefaultEntry msg row.2)
  simp only [Prod.mk.injEq] at columns
  unfold getMessageRow
  rw [columns.1, columns.2.1, columns.2.2.1, columns.2.2.2]
  exact ⟨(pushDefaultEntry_frame row.2).1, (pushDefaultEntry_frame row.2).2,
    pushDefaultEntry_defaults acm row.2 sameLength⟩

/-- The rows `r, r + 1, …` of `getMessage`: every cell written, the names and the row count
kept, and the defaults of those rows appended. -/
theorem foldl_getMessageRow (upper : r ≤ names.length) (written : acm.CellsWritten names r r msg)
    (sameLength : msg.defaultEntryNames.length = msg.defaultEntryValues.length) :
    acm.CellsWritten names names.length names.length
        ((names.enum.drop r).foldl (acm.getMessageRow names) msg) ∧
      ((names.enum.drop r).foldl (acm.getMessageRow names) msg).entryNames = msg.entryNames ∧
      ((names.enum.drop r).foldl (acm.getMessageRow names) msg).entryValues.length =
        msg.entryValues.length ∧
      ((names.enum.drop r).foldl (acm.getMessageRow names) msg).defaultEntryNames.length =
        ((names.enum.drop r).foldl (acm.getMessageRow names) msg).defaultEntryValues.length ∧
      ((names.enum.drop r).foldl (acm.getMessageRow names) msg).defaultEntryNames.zip
          ((names.enum.drop r).foldl (acm.getMessageRow names) msg).defaultEntryValues =
        msg.defaultEntryNames.zip msg.defaultEntryValues ++ (names.drop r).filterMap acm.defaultPair := by
  obtain ⟨remaining, count⟩ : ∃ remaining, names.length - r = remaining := ⟨_, rfl⟩
  induction remaining generalizing r msg with
  | zero =>
      have last : r = names.length := by omega
      subst last
      simp [List.drop_eq_nil_of_le, written, sameLength]
  | succ k ih =>
      have lt : r < names.length := by omega
      obtain ⟨rowNames, rowLength, rowSameLength, rowPairs⟩ :=
        getMessageRow_frame acm names (r, names.getD r "") sameLength
      obtain ⟨cells, names', length', sameLength', pairs⟩ :=
        ih (by omega) (getMessageRow_cellsWritten lt written) rowSameLength (by omega)
      rw [enum_drop_eq_cons lt, List.foldl_cons]
      refine ⟨cells, names'.trans rowNames, length'.trans rowLength, sameLength', ?_⟩
      rw [pairs, rowPairs, List.drop_eq_getElem_cons lt,
        List.filterMap_cons, List.append_assoc]
      simp only [List.getD_eq_getElem?_getD, List.getElem?_eq_getElem lt, Option.getD_some]
      cases acm.defaultPair names[r] <;> rfl

variable (acm) in
/-- What `getMessage` sends: the sorted entry names, a square matrix whose cell `(i, j)` says
whether the pair of the `i`-th and the `j`-th name, the one with the smaller index first, is
`ALWAYS`, and the defaults of those names. -/
theorem getMessage_spec :
    acm.getMessage.entryNames = acm.messageNames ∧
      acm.getMessage.entryValues.length = acm.messageNames.length ∧
      (∀ i j, acm.getMessage.enabled? i j =
        if i < acm.messageNames.length ∧ j < acm.messageNames.length then
          some (acm.messageCell acm.messageNames i j)
        else none) ∧
      acm.getMessage.defaultEntryNames.length = acm.getMessage.defaultEntryValues.length ∧
      acm.getMessage.defaultEntryNames.zip acm.getMessage.defaultEntryValues =
        acm.messageNames.filterMap acm.defaultPair := by
  have initial : acm.CellsWritten acm.messageNames 0 0
      ⟨acm.messageNames, List.replicate acm.messageNames.length
        ⟨List.replicate acm.messageNames.length false⟩, [], []⟩ := by
    intro i j
    simp only [AllowedCollisionMatrixMsg.enabled?, List.getElem?_replicate]
    by_cases row : i < acm.messageNames.length
    · by_cases column : j < acm.messageNames.length
      · simp [row, column]
      · simp [row, column, Nat.le_of_not_lt column]
    · simp [row]
  obtain ⟨cells, entryNames, entryValues, sameLength, pairs⟩ :=
    foldl_getMessageRow (Nat.zero_le _) initial rfl
  refine ⟨entryNames, entryValues.trans (List.length_replicate _ _), fun i j => ?_, sameLength,
    by simpa using pairs⟩
  rw [getMessage, ← List.drop_zero acm.messageNames.enum, cells i j]
  split_ifs with range <;> first | rfl | omega

variable {x : String}

/-- `getAllEntryNames` skips a key equal to the last name it kept; the keys of an `AList` are
distinct, so it keeps them all. -/
theorem getAllEntryNames_eq_keys (acm : AllowedCollisionMatrix Contact) :
    acm.getAllEntryNames = acm.entries.keys := by
  suffices skip : ∀ (keys : List String), keys.Nodup → ∀ names : List String,
      (∀ key ∈ keys, names.getLast? ≠ some key) →
      keys.foldl (fun names key => if names.getLast? = some key then names else names ++ [key])
        names = names ++ keys from
    skip _ acm.entries.keys_nodup [] (by simp)
  intro keys nodup
  induction keys with
  | nil => simp
  | cons key rest ih =>
      intro names fresh
      obtain ⟨notLater, restNodup⟩ := List.nodup_cons.mp nodup
      rw [List.foldl_cons, if_neg (fresh key (List.mem_cons_self _ _)),
        ih restNodup _ fun later member same => notLater (by
          rw [List.getLast?_concat, Option.some.injEq] at same
          exact same ▸ member)]
      simp

theorem messageNames_perm (acm : AllowedCollisionMatrix Contact) :
    acm.messageNames.Perm acm.entries.keys := by
  rw [messageNames, ← getAllEntryNames_eq_keys]
  exact List.perm_insertionSort _ _

theorem messageNames_nodup (acm : AllowedCollisionMatrix Contact) : acm.messageNames.Nodup :=
  (messageNames_perm acm).nodup_iff.mpr acm.entries.keys_nodup

theorem mem_messageNames {acm : AllowedCollisionMatrix Contact} :
    x ∈ acm.messageNames ↔ x ∈ acm.entries := by
  rw [(messageNames_perm acm).mem_iff, AList.mem_keys]

end AllowedCollisionMatrix
end MoveIt.CollisionDetection
