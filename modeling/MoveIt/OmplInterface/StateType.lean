import Mathlib.Data.Rat.Defs

namespace MoveIt.OmplInterface

/-! # The flags of a planning state

`ModelBasedStateSpace::StateType` (`model_based_state_space.h`) keeps what the planner has learnt
about a state in the bits of its `int` field `flags`: whether the state's validity is known, whether
it is valid, whether its distance to the goal (the field `distance`) is known, and whether it is a
start or a goal state.  Every method ORs a mask into `flags`, clears a bit, or tests a mask.

`Knowledge` says what the flags are for.  From the constructor, after any sequence of the methods,
every query answers as `Knowledge` does (`represents_run`).  So a state is never marked valid with
its validity unknown, and a known goal distance is the one the last `markValid(d)` or
`markInvalid(d)` gave.  `clearKnownInformation` zeroes the whole word, so it also forgets that a
state is a start or a goal state.  The joint values of the base class are not modelled.
-/

/-- The anonymous enum of `StateType`. -/
inductive Flag where
  | validityKnown
  | goalDistanceKnown
  | validityTrue
  | isStartState
  | isGoalState
deriving DecidableEq, Repr

namespace Flag

/-- The value the enum gives each flag. -/
def value : Flag → BitVec 32
  | validityKnown => 1
  | goalDistanceKnown => 2
  | validityTrue => 4
  | isStartState => 8
  | isGoalState => 16

/-- The bit of `flags` that each value sets. -/
def bit : Flag → Nat
  | validityKnown => 0
  | goalDistanceKnown => 1
  | validityTrue => 2
  | isStartState => 3
  | isGoalState => 4

theorem value_eq_twoPow (flag : Flag) : flag.value = BitVec.twoPow 32 flag.bit := by
  cases flag <;> decide

theorem bit_lt (flag : Flag) : flag.bit < 32 := by
  cases flag <;> decide

theorem bit_inj {flag other : Flag} : flag.bit = other.bit ↔ flag = other := by
  cases flag <;> cases other <;> decide

/-- Every value is a single bit, so `flags & FLAG` reads that bit. -/
theorem and_value_ne_zero (flags : BitVec 32) (flag : Flag) :
    (flags &&& flag.value != 0#32) = flags.getLsbD flag.bit := by
  rw [flag.value_eq_twoPow, BitVec.and_twoPow]
  have nonzero : BitVec.twoPow 32 flag.bit ≠ 0#32 := by cases flag <;> decide
  cases flags.getLsbD flag.bit <;> simp [nonzero]

@[simp] theorem getLsbD_value (flag other : Flag) :
    flag.value.getLsbD other.bit = decide (flag = other) := by
  simp [value_eq_twoPow, bit_lt, bit_inj]

end Flag

/-- `ModelBasedStateSpace::StateType`, without the joint values of its base class. -/
structure StateType where
  tag : Int
  flags : BitVec 32
  distance : ℚ
deriving DecidableEq, Repr

namespace StateType

/-- `StateType()`. -/
def init : StateType := { tag := -1, flags := 0, distance := 0 }

/-- `flags |= FLAG`, the body of the one-flag markers. -/
def setFlag (state : StateType) (flag : Flag) : StateType :=
  { state with flags := state.flags ||| flag.value }

/-- `flags & FLAG`, the body of the one-flag queries. -/
def testFlag (state : StateType) (flag : Flag) : Bool :=
  state.flags &&& flag.value != 0

/-- `markValid()`. -/
def markValid (state : StateType) : StateType :=
  { state with flags := state.flags ||| (Flag.validityKnown.value ||| Flag.validityTrue.value) }

/-- `markValid(double d)`. -/
def markValidAt (state : StateType) (d : ℚ) : StateType :=
  markValid { state.setFlag .goalDistanceKnown with distance := d }

/-- `markInvalid()`. -/
def markInvalid (state : StateType) : StateType :=
  { state with flags := (state.flags &&& ~~~Flag.validityTrue.value) ||| Flag.validityKnown.value }

/-- `markInvalid(double d)`. -/
def markInvalidAt (state : StateType) (d : ℚ) : StateType :=
  markInvalid { state.setFlag .goalDistanceKnown with distance := d }

/-- `clearKnownInformation()`. -/
def clearKnownInformation (state : StateType) : StateType := { state with flags := 0 }

/-- `markStartState()`. -/
def markStartState (state : StateType) : StateType := state.setFlag .isStartState

/-- `markGoalState()`. -/
def markGoalState (state : StateType) : StateType := state.setFlag .isGoalState

/-- `isValidityKnown()`. -/
def isValidityKnown (state : StateType) : Bool := state.testFlag .validityKnown

/-- `isMarkedValid()`. -/
def isMarkedValid (state : StateType) : Bool := state.testFlag .validityTrue

/-- `isGoalDistanceKnown()`. -/
def isGoalDistanceKnown (state : StateType) : Bool := state.testFlag .goalDistanceKnown

/-- `isStartState()`. -/
def isStartState (state : StateType) : Bool := state.testFlag .isStartState

/-- `isGoalState()`. -/
def isGoalState (state : StateType) : Bool := state.testFlag .isGoalState

/-- `isInputState()`. -/
def isInputState (state : StateType) : Bool :=
  state.flags &&& (Flag.isStartState.value ||| Flag.isGoalState.value) != 0

/-- The bit of `flags` that a flag owns. -/
def holds (state : StateType) (flag : Flag) : Bool := state.flags.getLsbD flag.bit

theorem testFlag_eq_holds (state : StateType) (flag : Flag) :
    state.testFlag flag = state.holds flag :=
  Flag.and_value_ne_zero state.flags flag

theorem isInputState_eq (state : StateType) :
    state.isInputState = (state.holds .isStartState || state.holds .isGoalState) := by
  have split : state.flags &&& (Flag.isStartState.value ||| Flag.isGoalState.value) =
      (state.flags &&& Flag.isStartState.value) ||| (state.flags &&& Flag.isGoalState.value) := by
    ext i
    simp only [BitVec.getLsbD_and, BitVec.getLsbD_or, Bool.and_or_distrib_left]
  rw [isInputState, split, Flag.value_eq_twoPow, Flag.value_eq_twoPow, BitVec.and_twoPow,
    BitVec.and_twoPow]
  unfold holds
  cases state.flags.getLsbD Flag.isStartState.bit <;>
    cases state.flags.getLsbD Flag.isGoalState.bit <;> decide

section Effects

variable (state : StateType) (flag : Flag)

@[simp] theorem holds_distance (d : ℚ) : ({ state with distance := d } : StateType).holds flag =
    state.holds flag := rfl

@[simp] theorem holds_setFlag (other : Flag) :
    (state.setFlag flag).holds other = (state.holds other || decide (flag = other)) := by
  simp [holds, setFlag]

@[simp] theorem holds_markValid :
    state.markValid.holds flag =
      (state.holds flag || decide (flag = .validityKnown) || decide (flag = .validityTrue)) := by
  simp [holds, markValid, Bool.or_assoc, eq_comm]

@[simp] theorem holds_markInvalid :
    state.markInvalid.holds flag =
      (state.holds flag && !decide (flag = .validityTrue) || decide (flag = .validityKnown)) := by
  simp [holds, markInvalid, Flag.bit_lt, eq_comm]

@[simp] theorem holds_clearKnownInformation : state.clearKnownInformation.holds flag = false := by
  simp [holds, clearKnownInformation]

end Effects

/-- The methods of `StateType` that change it. -/
inductive Method where
  | markValidAt (d : ℚ)
  | markValid
  | markInvalidAt (d : ℚ)
  | markInvalid
  | clearKnownInformation
  | markStartState
  | markGoalState
deriving DecidableEq, Repr

/-- Call one method. -/
def apply (state : StateType) : Method → StateType
  | .markValidAt d => state.markValidAt d
  | .markValid => state.markValid
  | .markInvalidAt d => state.markInvalidAt d
  | .markInvalid => state.markInvalid
  | .clearKnownInformation => state.clearKnownInformation
  | .markStartState => state.markStartState
  | .markGoalState => state.markGoalState

/-- The constructor followed by a sequence of methods. -/
def run (methods : List Method) : StateType := methods.foldl apply init

end StateType

/-- What the flags of a state are for: whether the state is known to be valid or invalid, its
distance to the goal if known, and whether it is a start or a goal state. -/
structure Knowledge where
  validity : Option Bool
  goalDistance : Option ℚ
  isStart : Bool
  isGoal : Bool
deriving DecidableEq, Repr

namespace Knowledge

/-- Nothing known. -/
def init : Knowledge := ⟨none, none, false, false⟩

/-- What each method records. -/
def apply (knowledge : Knowledge) : StateType.Method → Knowledge
  | .markValidAt d => { knowledge with validity := some true, goalDistance := some d }
  | .markValid => { knowledge with validity := some true }
  | .markInvalidAt d => { knowledge with validity := some false, goalDistance := some d }
  | .markInvalid => { knowledge with validity := some false }
  | .clearKnownInformation => init
  | .markStartState => { knowledge with isStart := true }
  | .markGoalState => { knowledge with isGoal := true }

/-- What a sequence of methods records, from nothing known. -/
def run (methods : List StateType.Method) : Knowledge := methods.foldl apply init

/-- The flag each piece of knowledge sets. -/
def holds (knowledge : Knowledge) : Flag → Bool
  | .validityKnown => knowledge.validity.isSome
  | .goalDistanceKnown => knowledge.goalDistance.isSome
  | .validityTrue => knowledge.validity == some true
  | .isStartState => knowledge.isStart
  | .isGoalState => knowledge.isGoal

end Knowledge

namespace StateType

/-- `state` records `knowledge`: each flag bit is set exactly when the knowledge it stands for
is there, and a known goal distance is the field `distance`. -/
structure Represents (state : StateType) (knowledge : Knowledge) : Prop where
  holds : ∀ flag, state.holds flag = knowledge.holds flag
  distance : ∀ d, knowledge.goalDistance = some d → state.distance = d

theorem represents_init : Represents init Knowledge.init :=
  ⟨fun flag => by cases flag <;> rfl, fun _ known => by cases known⟩

/-- Each method records in the flags what it records in the knowledge. -/
theorem Represents.apply {state : StateType} {knowledge : Knowledge}
    (represents : Represents state knowledge) (method : Method) :
    Represents (state.apply method) (knowledge.apply method) := by
  obtain ⟨holds, distance⟩ := represents
  cases method
  case markValidAt d | markInvalidAt d =>
    refine ⟨fun flag => ?_, fun _ known => by cases known; rfl⟩
    cases flag <;> simp [StateType.apply, Knowledge.apply, markValidAt, markInvalidAt,
      Knowledge.holds, holds]
  case clearKnownInformation =>
    refine ⟨fun flag => ?_, fun _ known => by cases known⟩
    cases flag <;> simp [StateType.apply, Knowledge.apply, Knowledge.init, Knowledge.holds]
  all_goals
    refine ⟨fun flag => ?_, distance⟩
    cases flag <;> simp [StateType.apply, Knowledge.apply, markStartState, markGoalState,
      Knowledge.holds, holds]

/-- From the constructor, any sequence of methods leaves a state that records what the same
sequence records in the knowledge. -/
theorem represents_run (methods : List Method) : Represents (run methods) (Knowledge.run methods) := by
  suffices ∀ (methods : List Method) state knowledge, Represents state knowledge →
      Represents (methods.foldl apply state) (methods.foldl Knowledge.apply knowledge) from
    this methods _ _ represents_init
  intro methods
  induction methods with
  | nil => exact fun _ _ represents => represents
  | cons method rest ih => exact fun _ _ represents => ih _ _ (represents.apply method)

/-- After any sequence of methods from the constructor, every query answers as the knowledge the
same sequence records.  The validity is known exactly when a state was marked valid or invalid
since the last clear, it is marked valid exactly when the last such mark was `markValid`, a known
goal distance is the last one given, and the start and goal marks last until a clear. -/
theorem queries_follow_knowledge (methods : List Method) :
    (run methods).isValidityKnown = (Knowledge.run methods).validity.isSome ∧
      (run methods).isMarkedValid = ((Knowledge.run methods).validity == some true) ∧
      (run methods).isGoalDistanceKnown = (Knowledge.run methods).goalDistance.isSome ∧
      (∀ d, (Knowledge.run methods).goalDistance = some d → (run methods).distance = d) ∧
      (run methods).isStartState = (Knowledge.run methods).isStart ∧
      (run methods).isGoalState = (Knowledge.run methods).isGoal ∧
      (run methods).isInputState =
        ((Knowledge.run methods).isStart || (Knowledge.run methods).isGoal) := by
  obtain ⟨holds, distance⟩ := represents_run methods
  simp only [isValidityKnown, isMarkedValid, isGoalDistanceKnown, isStartState, isGoalState,
    testFlag_eq_holds, isInputState_eq, holds]
  exact ⟨rfl, rfl, rfl, distance, rfl, rfl, rfl⟩

/- A clear forgets the start mark and the goal distance, though it keeps the field `distance`. -/
example : (run [.markStartState, .markValidAt 2, .clearKnownInformation]).isInputState = false ∧
    (run [.markStartState, .markValidAt 2, .clearKnownInformation]).isGoalDistanceKnown = false ∧
    (run [.markStartState, .markValidAt 2, .clearKnownInformation]).distance = 2 := by
  decide

end StateType

end MoveIt.OmplInterface
