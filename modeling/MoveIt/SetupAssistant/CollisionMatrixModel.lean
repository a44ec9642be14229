import Mathlib.Data.List.AList
import Mathlib.Order.Fin.Basic

namespace MoveIt.SetupAssistant

/-! # The collision matrix of the setup assistant

`CollisionMatrixModel` (`collision_matrix_model.cpp`) shows the link pairs of the setup assistant
as a square table over the link names.  A cell and its mirror stand for the same pair, the one
with the smaller index first, and a cell of the diagonal for none.  Checking a cell disables the
collision check of its pair.  The reason shown for a pair becomes `USER` when the user checks a
pair that was not disabled, and goes back to `NOT_DISABLED` when the user unchecks it; every
other reason stays.  The link names are fixed when the model is built, so they are a parameter
here and the pair map is the state.  `DisabledReason`, `LinkPairData` and `LinkPairMap` are
declared outside `src/`; they are taken as this source file uses them.
-/

/-- `DisabledReason`. -/
inductive DisabledReason where
  | never
  | default
  | adjacent
  | always
  | user
  | notDisabled
deriving DecidableEq, Repr

/-- `LinkPairData`: why a pair is disabled, and whether its check is disabled. -/
structure LinkPairData where
  reason : DisabledReason
  disableCheck : Bool
deriving DecidableEq, Repr

/-- `LinkPairMap`: the data of each pair of link names. -/
abbrev LinkPairMap := AList fun _ : String × String => LinkPairData

/-- `longReasonsToString`. -/
def longReasonsToString : DisabledReason → String
  | .never => "Never in Collision"
  | .default => "Collision by Default"
  | .adjacent => "Adjacent Links"
  | .always => "Always in Collision"
  | .user => "User Disabled"
  | .notDisabled => ""

/-- `longReasonsToBrush`, as the colour name of each brush; `none` is `QBrush()`. -/
def longReasonsToBrush : DisabledReason → Option String
  | .never => some "lightgreen"
  | .default => some "lightpink"
  | .adjacent => some "powderblue"
  | .always => some "tomato"
  | .user => some "yellow"
  | .notDisabled => none

/-- `Qt::CheckState`. -/
inductive CheckState where
  | unchecked
  | partiallyChecked
  | checked
deriving DecidableEq, Repr

/-- `Qt::Checked`, the integer a check-state `QVariant` holds for a checked box. -/
def qtChecked : Int := 2

/-- The roles `data` and `setData` tell apart; `other` is any further `Qt::ItemDataRole`. -/
inductive Role where
  | checkState
  | toolTip
  | background
  | other (role : Nat)
deriving DecidableEq, Repr

/-- The `QVariant`s `data` returns; `invalid` is `QVariant()`. -/
inductive Variant where
  | invalid
  | checkState (state : CheckState)
  | string (text : String)
  | brush (color : Option String)
deriving DecidableEq, Repr

namespace LinkPairData

/-- A pair the user disabled is checked, and a pair that is not disabled is not. -/
def Consistent (pairData : LinkPairData) : Prop :=
  (pairData.reason = .user → pairData.disableCheck = true) ∧
    (pairData.reason = .notDisabled → pairData.disableCheck = false)

instance (pairData : LinkPairData) : Decidable pairData.Consistent :=
  inferInstanceAs (Decidable (_ ∧ _))

/-- What edits may make of a pair: a consistent pair, with its reason kept or moved between
`USER` and `NOT_DISABLED`. -/
def Follows (before after : LinkPairData) : Prop :=
  after.Consistent ∧
    (after.reason = before.reason ∨
      (before.reason = .user ∨ before.reason = .notDisabled) ∧
        (after.reason = .user ∨ after.reason = .notDisabled))

instance (before after : LinkPairData) : Decidable (Follows before after) :=
  inferInstanceAs (Decidable (_ ∧ _))

theorem Follows.refl {pairData : LinkPairData} (consistent : pairData.Consistent) :
    Follows pairData pairData :=
  ⟨consistent, .inl rfl⟩

theorem Follows.trans {first second third : LinkPairData} (early : Follows first second)
    (late : Follows second third) : Follows first third := by
  obtain ⟨-, same | ⟨firstSettable, secondSettable⟩⟩ := early <;>
    obtain ⟨consistent, same' | ⟨secondSettable', thirdSettable⟩⟩ := late
  · exact ⟨consistent, .inl (same'.trans same)⟩
  · exact ⟨consistent, .inr ⟨same ▸ secondSettable', thirdSettable⟩⟩
  · exact ⟨consistent, .inr ⟨firstSettable, same' ▸ secondSettable⟩⟩
  · exact ⟨consistent, .inr ⟨firstSettable, thirdSettable⟩⟩

end LinkPairData

namespace CollisionMatrixModel

variable (names : List String)

/-- The key `item` looks up for a cell: the names of its row and its column, the smaller index
first.  Qt passes only cells of the table, so the indices are below the name count. -/
def pairKey (row column : Fin names.length) : String × String :=
  let ordered := if row > column then (column, row) else (row, column)
  (names[ordered.1], names[ordered.2])

/-- `item(index)`: the pair a cell stands for and its data; `none` is `pairs.end()`, for a cell
of the diagonal or a pair missing from the map. -/
def item (pairs : LinkPairMap) (row column : Fin names.length) :
    Option ((String × String) × LinkPairData) :=
  if row = column then none
  else
    (pairs.lookup (pairKey names row column)).map fun pairData =>
      (pairKey names row column, pairData)

/-- `data(index, role)`. -/
def data (pairs : LinkPairMap) (row column : Fin names.length) (role : Role) : Variant :=
  match item names pairs row column with
  | none => .invalid
  | some (_, pairData) =>
      match role with
      | .checkState => .checkState (if pairData.disableCheck then .checked else .unchecked)
      | .toolTip => .string (longReasonsToString pairData.reason)
      | .background => .brush (longReasonsToBrush pairData.reason)
      | .other _ => .invalid

/-- The reason `setData` gives a pair of reason `reason` whose check it sets to `disableCheck`. -/
def nextReason (reason : DisabledReason) (disableCheck : Bool) : DisabledReason :=
  if disableCheck = true ∧ reason = .notDisabled then .user
  else if disableCheck = false ∧ reason = .user then .notDisabled
  else reason

/-- Whatever the reason was, the new check and the new reason agree; only `USER` and
`NOT_DISABLED` change, and into one another. -/
theorem follows_nextReason (pairData : LinkPairData) (disableCheck : Bool) :
    pairData.Follows ⟨nextReason pairData.reason disableCheck, disableCheck⟩ := by
  obtain ⟨reason, check⟩ := pairData
  cases reason <;> cases check <;> cases disableCheck <;> decide

/-- Edited and then given back its check, a consistent pair gets back its reason. -/
theorem nextReason_undo {reason : DisabledReason} {check : Bool}
    (consistent : LinkPairData.Consistent ⟨reason, check⟩) (other : Bool) :
    nextReason (nextReason reason other) check = reason := by
  revert consistent
  cases reason <;> cases check <;> cases other <;> decide

/-- `setData(index, value, role)`: whether it accepted the change, the pair map after it, and the
cell it emits `dataChanged` for, the mirror of the edited one. -/
def setData (pairs : LinkPairMap) (row column : Fin names.length) (value : Int) (role : Role) :
    Bool × LinkPairMap × Option (Fin names.length × Fin names.length) :=
  match role with
  | .checkState =>
      match item names pairs row column with
      | none => (false, pairs, none)
      | some (key, pairData) =>
          let disableCheck := value == qtChecked
          (true, pairs.insert key ⟨nextReason pairData.reason disableCheck, disableCheck⟩,
            some (column, row))
  | _ => (false, pairs, none)

theorem pairKey_comm {row column : Fin names.length} :
    pairKey names row column = pairKey names column row := by
  unfold pairKey
  rcases lt_trichotomy row column with before | same | after
  · simp [before, not_lt.mpr before.le]
  · subst same
    rfl
  · simp [after, not_lt.mpr after.le]

/-- A cell and its mirror stand for the same pair. -/
theorem item_comm (pairs : LinkPairMap) (row column : Fin names.length) :
    item names pairs row column = item names pairs column row := by
  unfold item
  by_cases same : row = column
  · simp [same]
  · rw [if_neg same, if_neg (Ne.symm same), pairKey_comm]

variable {names}

/-- What `setData` does to each pair: it writes the pair of the cell, when the role is the check
state and the cell is off the diagonal, and no other. -/
theorem lookup_setData (pairs : LinkPairMap) (row column : Fin names.length) (value : Int)
    (role : Role) (key : String × String) :
    (setData names pairs row column value role).2.1.lookup key =
      if role = .checkState ∧ row ≠ column ∧ key = pairKey names row column then
        (pairs.lookup key).map fun pairData =>
          ⟨nextReason pairData.reason (value == qtChecked), value == qtChecked⟩
      else pairs.lookup key := by
  unfold setData
  cases role
  case checkState =>
    unfold item
    by_cases diagonal : row = column
    · simp [diagonal]
    · cases found : pairs.lookup (pairKey names row column) with
      | none =>
          by_cases same : key = pairKey names row column
          · subst same
            simp [diagonal, found]
          · simp [diagonal, found, same]
      | some pairData =>
          by_cases same : key = pairKey names row column
          · subst same
            simp [diagonal, found]
          · simp [diagonal, found, same, AList.lookup_insert_ne same]
  all_goals simp

/-- `setData` accepts a check state for a cell off the diagonal whose pair is in the map, and
nothing else. -/
theorem setData_accepted_iff (pairs : LinkPairMap) (row column : Fin names.length) (value : Int)
    (role : Role) :
    (setData names pairs row column value role).1 = true ↔
      role = .checkState ∧ row ≠ column ∧ pairKey names row column ∈ pairs := by
  unfold setData
  cases role
  case checkState =>
    unfold item
    by_cases diagonal : row = column
    · simp [diagonal]
    · cases found : pairs.lookup (pairKey names row column) <;>
        simp [diagonal, found, ← AList.lookup_isSome]
  all_goals simp

/-- `setData` emits `dataChanged` for the mirror cell when it accepts, and for nothing else. -/
theorem setData_emitted (pairs : LinkPairMap) (row column : Fin names.length) (value : Int)
    (role : Role) :
    (setData names pairs row column value role).2.2 =
      if (setData names pairs row column value role).1 then some (column, row) else none := by
  unfold setData
  cases role
  case checkState => cases item names pairs row column <;> rfl
  all_goals rfl

/-- A cell and its mirror show the same under every role, and a cell of the diagonal shows
nothing. -/
theorem data_comm (pairs : LinkPairMap) (row column : Fin names.length) (role : Role) :
    data names pairs row column role = data names pairs column row role := by
  unfold data
  rw [item_comm]

theorem data_diagonal (pairs : LinkPairMap) (row : Fin names.length) (role : Role) :
    data names pairs row row role = .invalid := by
  simp [data, item]

/-- An accepted check-state edit reads back: the cell and its mirror show the box checked
exactly when the value was `Qt::Checked`. -/
theorem data_setData_checkState (pairs : LinkPairMap) (row column : Fin names.length)
    (value : Int) (accepted : (setData names pairs row column value .checkState).1 = true) :
    data names (setData names pairs row column value .checkState).2.1 row column .checkState =
        .checkState (if value == qtChecked then .checked else .unchecked) ∧
      data names (setData names pairs row column value .checkState).2.1 column row .checkState =
        .checkState (if value == qtChecked then .checked else .unchecked) := by
  obtain ⟨-, diagonal, present⟩ :=
    (setData_accepted_iff pairs row column value .checkState).mp accepted
  obtain ⟨pairData, found⟩ := Option.isSome_iff_exists.mp (AList.lookup_isSome.mpr present)
  have shown : data names (setData names pairs row column value .checkState).2.1 row column
      .checkState = .checkState (if value == qtChecked then .checked else .unchecked) := by
    unfold data item
    rw [if_neg diagonal, lookup_setData]
    simp [diagonal, found]
  exact ⟨shown, (data_comm ..).symm.trans shown⟩

/-- One edit from a view: the cell, the value and the role it passes to `setData`. -/
structure Edit (count : Nat) where
  row : Fin count
  column : Fin count
  value : Int
  role : Role
deriving DecidableEq, Repr

variable (names) in
/-- The pair map after a sequence of edits. -/
def run (pairs : LinkPairMap) (edits : List (Edit names.length)) : LinkPairMap :=
  edits.foldl (fun pairs edit => (setData names pairs edit.row edit.column edit.value edit.role).2.1)
    pairs

theorem isSome_lookup_setData (pairs : LinkPairMap) (row column : Fin names.length) (value : Int)
    (role : Role) (key : String × String) :
    ((setData names pairs row column value role).2.1.lookup key).isSome = (pairs.lookup key).isSome := by
  rw [lookup_setData]
  split_ifs <;> simp

theorem follows_lookup_setData (pairs : LinkPairMap) (row column : Fin names.length) (value : Int)
    (role : Role) {key : String × String} {before : LinkPairData}
    (found : pairs.lookup key = some before) (consistent : before.Consistent) :
    ∃ after, (setData names pairs row column value role).2.1.lookup key = some after ∧
      before.Follows after := by
  rw [lookup_setData, found]
  split_ifs
  · exact ⟨_, rfl, follows_nextReason before _⟩
  · exact ⟨before, rfl, .refl consistent⟩

/-- Over any sequence of edits, no pair is added to the map or removed from it, and what becomes
of a consistent pair follows from it: it stays consistent, and its reason stays, or moves between
`USER` and `NOT_DISABLED`. -/
theorem run_keeps_pairs (pairs : LinkPairMap) (edits : List (Edit names.length))
    (key : String × String) :
    ((run names pairs edits).lookup key).isSome = (pairs.lookup key).isSome ∧
      ∀ before, pairs.lookup key = some before → before.Consistent →
        ∃ after, (run names pairs edits).lookup key = some after ∧ before.Follows after := by
  induction edits generalizing pairs with
  | nil => exact ⟨rfl, fun before found consistent => ⟨before, found, .refl consistent⟩⟩
  | cons edit rest ih =>
      obtain ⟨kept, follows⟩ := ih (setData names pairs edit.row edit.column edit.value edit.role).2.1
      refine ⟨kept.trans (isSome_lookup_setData ..), fun before found consistent => ?_⟩
      obtain ⟨middle, middleFound, early⟩ := follows_lookup_setData pairs edit.row edit.column
        edit.value edit.role found consistent
      obtain ⟨after, afterFound, late⟩ := follows middle middleFound early.1
      exact ⟨after, afterFound, early.trans late⟩

/-- Given back the check its pair had, a cell undoes an edit of a consistent pair: every pair
has its data from before the two edits. -/
theorem setData_undo (pairs : LinkPairMap) (row column : Fin names.length) (value restore : Int)
    {pairData : LinkPairData} (found : pairs.lookup (pairKey names row column) = some pairData)
    (consistent : pairData.Consistent) (restores : (restore == qtChecked) = pairData.disableCheck)
    (key : String × String) :
    (setData names (setData names pairs row column value .checkState).2.1 row column restore
      .checkState).2.1.lookup key = pairs.lookup key := by
  rw [lookup_setData, lookup_setData]
  by_cases hit : row ≠ column ∧ key = pairKey names row column
  · obtain ⟨diagonal, rfl⟩ := hit
    simp [diagonal, found, restores, nextReason_undo consistent]
  · simp only [true_and, hit, if_false]

end CollisionMatrixModel

end MoveIt.SetupAssistant
