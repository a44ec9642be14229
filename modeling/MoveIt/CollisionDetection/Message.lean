import Mathlib.Data.List.Sort
import MoveIt.CollisionDetection.CollisionMatrix

namespace MoveIt.CollisionDetection

/-! # The message form of the matrix

`getMessage` and the constructor from a `moveit_msgs::AllowedCollisionMatrix`.  The message
holds a dense boolean matrix over the sorted entry names and a list of boolean defaults, so a
`CONDITIONAL` type, whose predicate cannot be sent, goes out as `false`.
-/

/-- `moveit_msgs::AllowedCollisionEntry`. -/
structure AllowedCollisionEntry where
  enabled : List Bool
deriving DecidableEq, Repr

/-- `moveit_msgs::AllowedCollisionMatrix`. -/
structure AllowedCollisionMatrixMsg where
  entryNames : List String
  entryValues : List AllowedCollisionEntry
  defaultEntryNames : List String
  defaultEntryValues : List Bool
deriving DecidableEq, Repr

namespace AllowedCollisionMatrixMsg

/-- `msg.entry_values[i].enabled[j] = value`. -/
def setEnabled (msg : AllowedCollisionMatrixMsg) (i j : Nat) (value : Bool) :
    AllowedCollisionMatrixMsg :=
  { msg with entryValues := msg.entryValues.modify (fun entry => ⟨entry.enabled.set j value⟩) i }

end AllowedCollisionMatrixMsg

namespace AllowedCollisionMatrix

variable {Contact : Type}

/-- `getAllEntryNames`: the keys of the entry table, a key equal to the previous one skipped. -/
def getAllEntryNames (acm : AllowedCollisionMatrix Contact) : List String :=
  acm.entries.keys.foldl
    (fun names key => if names.getLast? = some key then names else names ++ [key]) []

/-- The default entry of `name`, if it has one, appended to the message. -/
def pushDefaultEntry (acm : AllowedCollisionMatrix Contact) (msg : AllowedCollisionMatrixMsg)
    (name : String) : AllowedCollisionMatrixMsg :=
  match acm.getDefaultEntry name with
  | some dtype =>
      { msg with
        defaultEntryNames := msg.defaultEntryNames ++ [name]
        defaultEntryValues := msg.defaultEntryValues ++ [dtype == .always] }
  | none => msg

/-- The inner loop body of `getMessage` at row `(i, entry_names[i])` and column
`(j, entry_names[j])`: the pair type, if found, written to both cells. -/
def setMessagePair (acm : AllowedCollisionMatrix Contact) (row : Nat × String)
    (msg : AllowedCollisionMatrixMsg) (column : Nat × String) : AllowedCollisionMatrixMsg :=
  match acm.getEntry row.2 column.2 with
  | some type =>
      (msg.setEnabled column.1 row.1 (type == .always)).setEnabled row.1 column.1
        (type == .always)
  | none => msg

/-- Row `i` of `getMessage`: the default entry of `entry_names[i]`, then the pairs
`(entry_names[i], entry_names[j])` for `j ≥ i`. -/
def getMessageRow (acm : AllowedCollisionMatrix Contact) (names : List String)
    (msg : AllowedCollisionMatrixMsg) (row : Nat × String) : AllowedCollisionMatrixMsg :=
  (names.enum.drop row.1).foldl (acm.setMessagePair row) (acm.pushDefaultEntry msg row.2)

/-- The entry names of `getMessage`, sorted with the lexicographic order of their characters
as `std::sort` orders `std::string`. -/
def messageNames (acm : AllowedCollisionMatrix Contact) : List String :=
  @List.insertionSort String String.le (fun a b => String.decLE a b) acm.getAllEntryNames

/-- `getMessage`. -/
def getMessage (acm : AllowedCollisionMatrix Contact) : AllowedCollisionMatrixMsg :=
  acm.messageNames.enum.foldl (acm.getMessageRow acm.messageNames)
    { entryNames := acm.messageNames
      entryValues := List.replicate acm.messageNames.length
        ⟨List.replicate acm.messageNames.length false⟩
      defaultEntryNames := []
      defaultEntryValues := [] }

/-- The error the message constructor logs when the counts of a message do not match. -/
def countMismatchError : String :=
  "The number of links does not match the number of entries in AllowedCollisionMatrix message"

/-- The error the message constructor logs for a row whose length is not the number of names. -/
def rowLengthError (link : String) : String :=
  "Number of entries is incorrect for link \x27" ++ link ++ "\x27 in AllowedCollisionMatrix message"

/-- Row `i` of the message constructor: logged and skipped when its length is not the number
of names, else `setEntry(entry_names[i], entry_names[j], enabled[j])` for `j > i`. -/
def loadMessageRow (entryNames : List String) (state : AllowedCollisionMatrix Contact × List String)
    (row : Nat × String × AllowedCollisionEntry) : AllowedCollisionMatrix Contact × List String :=
  if row.2.2.enabled.length ≠ entryNames.length then
    (state.1, state.2 ++ [rowLengthError row.2.1])
  else
    (((entryNames.zip row.2.2.enabled).drop (row.1 + 1)).foldl
      (fun acm other => acm.setEntry row.2.1 other.1 other.2) state.1, state.2)

/-- `AllowedCollisionMatrix(const moveit_msgs::AllowedCollisionMatrix&)`, with the errors it
logs. -/
def ofMessageLogged (msg : AllowedCollisionMatrixMsg) :
    AllowedCollisionMatrix Contact × List String :=
  if msg.entryNames.length ≠ msg.entryValues.length ∨
      msg.defaultEntryNames.length ≠ msg.defaultEntryValues.length then
    (empty, [countMismatchError])
  else
    let rows := (msg.entryNames.zip msg.entryValues).enum.foldl (loadMessageRow msg.entryNames)
      (empty, [])
    ((msg.defaultEntryNames.zip msg.defaultEntryValues).foldl
      (fun acm entry => acm.setDefaultEntry entry.1 entry.2) rows.1, rows.2)

/-- The matrix built from a message. -/
def ofMessage (msg : AllowedCollisionMatrixMsg) : AllowedCollisionMatrix Contact :=
  (ofMessageLogged msg).1

end AllowedCollisionMatrix

end MoveIt.CollisionDetection
