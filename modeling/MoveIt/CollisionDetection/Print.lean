import Mathlib.Data.Nat.Digits
import Mathlib.Data.String.Lemmas
import MoveIt.CollisionDetection.Reachable

namespace MoveIt.CollisionDetection

/-! # The printed matrix

`print` writes the matrix as a table over the sorted entry names, the names `getMessage` sends:
`D` header lines that spell the index of each column downwards, then one line per name with the
name, its index, `" | "` and one cell per name, showing what `getAllowedCollision` finds for the
pair: `1` for `ALWAYS`, `0` for `NEVER`, `?` for `CONDITIONAL` and `-` for nothing.  Every field
is right-aligned by `std::setw`: the name in `L` characters, one more than the longest name and
at least 5, the index in `D + 1`, where `D`, at least 2, is the number of digits the `while`
loop finds for the largest index, and each cell in 3.

A line here is the text before its `std::endl`.  Lengths are counted in characters where the
source counts bytes; the two agree on ASCII names, and every width below is counted the same
way as the padding it sets.  The loop bound `pow(10, D) - 1` is computed in `double` in the
source and exactly here; the two agree below `2^53` names.
-/

namespace AllowedCollisionMatrix

variable {Contact : Type}

/-- `out << std::setw(width) << text`: `text` right-aligned in `width` characters. -/
def setw (width : Nat) (text : String) : String := String.leftpad width ' ' text

/-- `out << std::setw(3) << c`. -/
def cell (c : Char) : String := setw 3 (String.singleton c)

/-- The character a cell shows for what `getAllowedCollision` finds. -/
def cellChar : Option AllowedCollision → Char
  | some .always => '1'
  | some .never => '0'
  | some .conditional => '?'
  | none => '-'

/-- The loop over the names that widens `L` from 4 to the longest name. -/
def widest (names : List String) : Nat :=
  names.foldl (fun width name => if name.length > width then name.length else width) 4

/-- The `while` loop that widens the index column: one more digit while `count` exceeds
`10^D - 1`, at most `fuel` times. -/
def indexDigitsFrom (count : Nat) : Nat → Nat → Nat
  | 0, digits => digits
  | fuel + 1, digits =>
      if count > 10 ^ digits - 1 then indexDigitsFrom count fuel (digits + 1) else digits

/-- `L`, after `++L`. -/
def printWidth (acm : AllowedCollisionMatrix Contact) : Nat := widest acm.messageNames + 1

/-- `D`, from 2; as many rounds as there are names always end the loop. -/
def printDigits (acm : AllowedCollisionMatrix Contact) : Nat :=
  indexDigitsFrom acm.messageNames.length acm.messageNames.length 2

/-- Header line `j`: for each index, character `j` of the index written in `D` characters
(`ss.str().c_str()[j]`, inside the string as `j < D`). -/
def headerLine (acm : AllowedCollisionMatrix Contact) (j : Nat) : String :=
  setw (acm.printWidth + acm.printDigits + 4) "" ++
    String.join ((List.range acm.messageNames.length).map fun i =>
      cell ((setw acm.printDigits (Nat.repr i)).data.getD j ' '))

/-- The line of `name`, the name of index `i`. -/
def rowLine (acm : AllowedCollisionMatrix Contact) (i : Nat) (name : String) : String :=
  setw acm.printWidth name ++ setw (acm.printDigits + 1) (Nat.repr i) ++ " | " ++
    String.join (acm.messageNames.map fun other => cell (cellChar (acm.getAllowedCollision name other)))

/-- `print(out)`, as the lines it writes. -/
def print (acm : AllowedCollisionMatrix Contact) : List String :=
  (List.range acm.printDigits).map acm.headerLine ++
    acm.messageNames.enum.map fun entry => acm.rowLine entry.1 entry.2

/-- Where a line holds the character of cell `column`: after the name, the index and `" | "`,
the last of the three characters of the cell. -/
def cellPosition (acm : AllowedCollisionMatrix Contact) (column : Nat) : Nat :=
  acm.printWidth + acm.printDigits + 4 + 3 * column + 2

/-- The character printed on line `line` at the position of cell `column`. -/
def printedChar (acm : AllowedCollisionMatrix Contact) (line column : Nat) : Option Char :=
  acm.print[line]?.bind fun text => text.data[acm.cellPosition column]?

section Text

theorem data_foldl_append (lines : List String) (start : String) :
    (lines.foldl (· ++ ·) start).data = start.data ++ (lines.map String.data).flatten := by
  induction lines generalizing start with
  | nil => simp
  | cons line rest ih => simp [ih]

@[simp] theorem data_join (lines : List String) :
    (String.join lines).data = (lines.map String.data).flatten := by
  rw [String.join, data_foldl_append]
  rfl

@[simp] theorem data_setw (width : Nat) (text : String) :
    (setw width text).data = List.replicate (width - text.length) ' ' ++ text.data := by
  cases text
  rfl

theorem length_setw (width : Nat) (text : String) : (setw width text).length = max width text.length :=
  String.leftpad_length width ' ' text

@[simp] theorem data_cell (c : Char) : (cell c).data = [' ', ' ', c] := rfl

theorem length_join_cells {α : Type} (items : List α) (f : α → Char) :
    ((items.map fun item => [' ', ' ', f item]).flatten).length = 3 * items.length := by
  induction items with
  | nil => rfl
  | cons item rest ih => simp [ih]; omega

/-- Cell `column` of a row of cells is its character `3 * column + 2`. -/
theorem getElem?_join_cells {α : Type} (items : List α) (f : α → Char) (column : Nat) :
    ((items.map fun item => [' ', ' ', f item]).flatten)[3 * column + 2]? = items[column]?.map f := by
  induction items generalizing column with
  | nil => rfl
  | cons item rest ih =>
      cases column with
      | zero => simp
      | succ column =>
          rw [List.map_cons, List.flatten_cons, List.getElem?_append_right (by simp; omega)]
          simpa [Nat.mul_succ, show 3 * column + 3 + 2 - 3 = 3 * column + 2 by omega] using
            ih column

theorem cellChar_injective : Function.Injective (cellChar : Option AllowedCollision → Char) := by
  intro first second same
  rcases first with _ | ⟨_ | _ | _⟩ <;> rcases second with _ | ⟨_ | _ | _⟩ <;>
    first | rfl | exact absurd same (by decide)

end Text

section Widths

variable (acm : AllowedCollisionMatrix Contact)

theorem foldl_widen_bounds (names : List String) (start : Nat) :
    start ≤ names.foldl (fun width name => if name.length > width then name.length else width) start ∧
      ∀ name ∈ names, name.length ≤
        names.foldl (fun width name => if name.length > width then name.length else width) start := by
  induction names generalizing start with
  | nil => simp
  | cons name rest ih =>
      have widened : start ≤ (if name.length > start then name.length else start) ∧
          name.length ≤ (if name.length > start then name.length else start) := by
        split_ifs <;> omega
      obtain ⟨above, bounds⟩ := ih (if name.length > start then name.length else start)
      simp only [List.foldl_cons, List.mem_cons, forall_eq_or_imp]
      exact ⟨widened.1.trans above, widened.2.trans above, bounds⟩

theorem length_lt_printWidth {name : String} (member : name ∈ acm.messageNames) :
    name.length < acm.printWidth :=
  Nat.lt_succ_of_le ((foldl_widen_bounds acm.messageNames 4).2 name member)

theorem indexDigitsFrom_fits (count : Nat) :
    ∀ fuel digits, count ≤ 10 ^ (digits + fuel) - 1 →
      count ≤ 10 ^ indexDigitsFrom count fuel digits - 1 ∧ digits ≤ indexDigitsFrom count fuel digits
  | 0, _, enough => ⟨enough, le_rfl⟩
  | fuel + 1, digits, enough => by
      unfold indexDigitsFrom
      split_ifs
      · have wider := indexDigitsFrom_fits count fuel (digits + 1) (by rwa [Nat.add_right_comm])
        exact ⟨wider.1, by omega⟩
      · exact ⟨by omega, le_rfl⟩

/-- `D` digits write every index: the loop ends with `10^D - 1` at least the name count. -/
theorem length_le_printDigits :
    acm.messageNames.length ≤ 10 ^ acm.printDigits - 1 ∧ 2 ≤ acm.printDigits := by
  apply indexDigitsFrom_fits
  have below := Nat.lt_pow_self (by norm_num : 1 < 10) acm.messageNames.length
  have grows : 10 ^ acm.messageNames.length ≤ 10 ^ (2 + acm.messageNames.length) :=
    Nat.pow_le_pow_right (by norm_num) (by omega)
  omega

theorem length_repr_le {index : Nat} (inRange : index < acm.messageNames.length) :
    (Nat.repr index).length ≤ acm.printDigits := by
  obtain ⟨fits, two⟩ := acm.length_le_printDigits
  exact Nat.repr_length index acm.printDigits (by omega) (by omega)

end Widths

section Lines

variable {acm : AllowedCollisionMatrix Contact}

/-- A line of the table: `L + D + 4` characters, then one cell for each of `items`. -/
def Tabulated (acm : AllowedCollisionMatrix Contact) (line : String) {α : Type} (items : List α)
    (f : α → Char) : Prop :=
  ∃ front : List Char, front.length = acm.printWidth + acm.printDigits + 4 ∧
    line.data = front ++ (items.map fun item => [' ', ' ', f item]).flatten

theorem Tabulated.length {line : String} {α : Type} {items : List α} {f : α → Char}
    (tabulated : acm.Tabulated line items f) :
    line.length = acm.printWidth + acm.printDigits + 4 + 3 * items.length := by
  obtain ⟨front, frontLength, split⟩ := tabulated
  obtain ⟨data⟩ := line
  dsimp only at split
  simp only [String.length_mk, split, List.length_append, frontLength, length_join_cells]

theorem Tabulated.getElem? {line : String} {α : Type} {items : List α} {f : α → Char}
    (tabulated : acm.Tabulated line items f) (column : Nat) :
    line.data[acm.cellPosition column]? = items[column]?.map f := by
  obtain ⟨front, frontLength, split⟩ := tabulated
  rw [split, cellPosition, List.getElem?_append_right (by omega), frontLength,
    show acm.printWidth + acm.printDigits + 4 + 3 * column + 2 -
      (acm.printWidth + acm.printDigits + 4) = 3 * column + 2 by omega, getElem?_join_cells]

theorem tabulated_headerLine (j : Nat) :
    acm.Tabulated (acm.headerLine j) (List.range acm.messageNames.length)
      fun i => (setw acm.printDigits (Nat.repr i)).data.getD j ' ' :=
  ⟨List.replicate (acm.printWidth + acm.printDigits + 4) ' ', List.length_replicate _ _, by
    simp [headerLine, List.map_map, Function.comp_def]⟩

theorem tabulated_rowLine {i : Nat} {name : String} (member : name ∈ acm.messageNames)
    (inRange : i < acm.messageNames.length) :
    acm.Tabulated (acm.rowLine i name) acm.messageNames
      fun other => cellChar (acm.getAllowedCollision name other) := by
  have nameFits := acm.length_lt_printWidth member
  have indexFits := acm.length_repr_le inRange
  refine ⟨List.replicate (acm.printWidth - name.length) ' ' ++ name.data ++
    (List.replicate (acm.printDigits + 1 - (Nat.repr i).length) ' ' ++ (Nat.repr i).data) ++
      [' ', '|', ' '], ?_, ?_⟩
  · have nameLength : name.data.length = name.length := rfl
    have indexLength : (Nat.repr i).data.length = (Nat.repr i).length := rfl
    simp only [List.length_append, List.length_replicate, nameLength, indexLength, List.length_cons,
      List.length_nil]
    omega
  · simp [rowLine, List.map_map, Function.comp_def]

theorem length_print : acm.print.length = acm.printDigits + acm.messageNames.length := by
  simp [print]

theorem getElem?_print_header {j : Nat} (header : j < acm.printDigits) :
    acm.print[j]? = some (acm.headerLine j) := by
  rw [print, List.getElem?_append_left (by simpa using header), List.getElem?_map,
    List.getElem?_range header, Option.map_some']

theorem getElem?_print_row (i : Nat) :
    acm.print[acm.printDigits + i]? = acm.messageNames[i]?.map (acm.rowLine i) := by
  rw [print, List.getElem?_append_right (by simp), List.length_map, List.length_range,
    Nat.add_sub_cancel_left, List.getElem?_map, List.getElem?_enum, Option.map_map]
  rfl

theorem length_data_setw_repr {column : Nat}
    (inRange : column < acm.messageNames.length) :
    (setw acm.printDigits (Nat.repr column)).data.length = acm.printDigits := by
  have fits := acm.length_repr_le inRange
  have reprLength : (Nat.repr column).data.length = (Nat.repr column).length := rfl
  simp only [data_setw, List.length_append, List.length_replicate, reprLength]
  omega

end Lines

/-- `print` writes a rectangular table: `D` header lines and a line for each of the `n` entry
names, all `L + D + 4 + 3n` characters long.  Read downwards, the header above cell `column`
spells `column` right-aligned in `D` characters; on the line of the name `a`, the cell of the name
`b` shows what `getAllowedCollision` finds for `a` and `b`. -/
theorem print_layout (acm : AllowedCollisionMatrix Contact) :
    acm.print.length = acm.printDigits + acm.messageNames.length ∧
      (∀ line ∈ acm.print,
        line.length = acm.printWidth + acm.printDigits + 4 + 3 * acm.messageNames.length) ∧
      (∀ column < acm.messageNames.length,
        (List.range acm.printDigits).map (acm.printedChar · column) =
          (setw acm.printDigits (Nat.repr column)).data.map some) ∧
      ∀ row column a b, acm.messageNames[row]? = some a → acm.messageNames[column]? = some b →
        acm.printedChar (acm.printDigits + row) column =
          some (cellChar (acm.getAllowedCollision a b)) := by
  refine ⟨length_print, ?_, ?_, ?_⟩
  · intro line member
    obtain ⟨index, found⟩ := List.mem_iff_getElem?.mp member
    by_cases header : index < acm.printDigits
    · rw [getElem?_print_header header, Option.some_inj] at found
      subst found
      simpa using (tabulated_headerLine index).length
    · obtain ⟨row, rfl⟩ : ∃ row, index = acm.printDigits + row := ⟨index - acm.printDigits, by omega⟩
      rw [getElem?_print_row] at found
      obtain ⟨name, named, rfl⟩ := Option.map_eq_some'.mp found
      obtain ⟨inRange, -⟩ := List.getElem?_eq_some_iff.mp named
      exact (tabulated_rowLine (List.getElem?_mem named) inRange).length
  · intro column inRange
    have spelled := length_data_setw_repr inRange
    apply List.ext_getElem?
    intro j
    rw [List.getElem?_map, List.getElem?_map]
    by_cases header : j < acm.printDigits
    · have inside : j < (setw acm.printDigits (Nat.repr column)).data.length := by omega
      rw [List.getElem?_range header, List.getElem?_eq_getElem inside]
      simp only [Option.map_some', printedChar, getElem?_print_header header, Option.some_bind,
        (tabulated_headerLine j).getElem? column, List.getElem?_range inRange,
        List.getD_eq_getElem?_getD, List.getElem?_eq_getElem inside, Option.getD_some]
    · rw [List.getElem?_eq_none (by simpa using Nat.le_of_not_lt header),
        List.getElem?_eq_none (by omega)]
      rfl
  · intro row column a b named other
    obtain ⟨inRange, -⟩ := List.getElem?_eq_some_iff.mp named
    rw [printedChar, getElem?_print_row, named, Option.map_some', Option.some_bind,
      (tabulated_rowLine (List.getElem?_mem named) inRange).getElem?, other, Option.map_some']

/-- One `ALWAYS` pair: the names in 5 characters, the indices in 3, `-` for the pairs of a name
with itself. -/
example : ((empty : AllowedCollisionMatrix Unit).setEntry "base" "arm" true).print =
    ["                 ", "             0  1", "  arm  0 |   -  1", " base  1 |   1  -"] := by
  decide

section Congruence

variable {acm other : AllowedCollisionMatrix Contact}

theorem printWidth_congr (sameNames : acm.messageNames = other.messageNames) :
    acm.printWidth = other.printWidth := by
  rw [printWidth, printWidth, sameNames]

theorem printDigits_congr (sameNames : acm.messageNames = other.messageNames) :
    acm.printDigits = other.printDigits := by
  rw [printDigits, printDigits, sameNames]

theorem headerLine_congr (sameNames : acm.messageNames = other.messageNames) :
    acm.headerLine = other.headerLine := by
  funext j
  rw [headerLine, headerLine, printWidth_congr sameNames, printDigits_congr sameNames, sameNames]

theorem rowLine_congr (sameNames : acm.messageNames = other.messageNames) {name : String}
    (agree : ∀ b ∈ acm.messageNames,
      acm.getAllowedCollision name b = other.getAllowedCollision name b) (i : Nat) :
    acm.rowLine i name = other.rowLine i name := by
  rw [rowLine, rowLine, printWidth_congr sameNames, printDigits_congr sameNames, ← sameNames,
    List.map_congr_left fun b member => by rw [agree b member]]

/-- For two matrices with the same entry names, the printed tables are the same exactly when
`getAllowedCollision` agrees on every pair of entry names: the table shows all that
`getAllowedCollision` tells apart among the entry names. -/
theorem print_eq_print_iff (sameNames : acm.messageNames = other.messageNames) :
    acm.print = other.print ↔
      ∀ a ∈ acm.messageNames, ∀ b ∈ acm.messageNames,
        acm.getAllowedCollision a b = other.getAllowedCollision a b := by
  constructor
  · intro samePrint a inA b inB
    obtain ⟨row, named⟩ := List.mem_iff_getElem?.mp inA
    obtain ⟨column, otherNamed⟩ := List.mem_iff_getElem?.mp inB
    have samePrinted : acm.printedChar = other.printedChar := by
      funext line column
      rw [printedChar, printedChar, cellPosition, cellPosition, samePrint,
        printWidth_congr sameNames, printDigits_congr sameNames]
    have shown := (print_layout acm).2.2.2 row column a b named otherNamed
    rw [samePrinted, printDigits_congr sameNames, (print_layout other).2.2.2 row column a b
      (sameNames ▸ named) (sameNames ▸ otherNamed), Option.some_inj] at shown
    exact cellChar_injective shown.symm
  · intro agree
    rw [print, print, headerLine_congr sameNames, printDigits_congr sameNames, ← sameNames]
    exact congrArg _ (List.map_congr_left fun entry member =>
      rowLine_congr sameNames (agree entry.2 (List.snd_mem_of_mem_enum member)) entry.1)

theorem printed_tables_of_same_names :
    let acm := (empty : AllowedCollisionMatrix Unit).setEntry "base" "arm" true
    let other := ((empty : AllowedCollisionMatrix Unit).setEntry "base" "arm" false).setEntryAll true
    acm.messageNames = other.messageNames ∧
      (acm.print = other.print ↔ ∀ a ∈ acm.messageNames, ∀ b ∈ acm.messageNames,
        acm.getAllowedCollision a b = other.getAllowedCollision a b) := by
  intro acm other
  have sameNames : acm.messageNames = other.messageNames := by decide
  exact ⟨sameNames, print_eq_print_iff sameNames⟩

end Congruence

end AllowedCollisionMatrix

end MoveIt.CollisionDetection
