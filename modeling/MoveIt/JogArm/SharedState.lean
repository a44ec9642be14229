import Mathlib.Algebra.Order.Ring.Unbundled.Rat
import MoveIt.RosMsgs

namespace MoveIt.JogArm

/-! # The shared state of `jog_arm`

`JogArmShared` is the one structure the publish loop, the subscriber callbacks and the two
worker threads share, each access under `shared_variables_mutex`.  Every function below is one
critical section, so a run of the system is a sequence of them in any order.
-/

/-- A C++ `double` as the comparisons of the parameter checks see it: NaN, an infinity, or a
finite value. -/
inductive Double where
  | nan
  | negInf
  | finite (value : ℚ)
  | posInf
deriving DecidableEq, Repr

namespace Double

instance (n : ℕ) : OfNat Double n := ⟨.finite n⟩

/-- The IEEE 754 `<` of two doubles: false whenever either side is NaN. -/
def lt : Double → Double → Bool
  | nan, _ | _, nan => false
  | negInf, negInf => false
  | negInf, _ => true
  | _, negInf => false
  | finite x, finite y => decide (x < y)
  | finite _, posInf => true
  | posInf, _ => false

/-- `std::isnan`. -/
def isNaN : Double → Bool
  | nan => true
  | _ => false

/-- The IEEE 754 `<=` of two doubles: false whenever either side is NaN. -/
def le (x y : Double) : Bool := !x.isNaN && !y.isNaN && !y.lt x

end Double

/-- The options of `JogArmParameters` that the modelled functions read; the numeric options that
`readParameters` checks are `double`s. -/
structure JogArmParameters where
  collisionCheckRate : Double
  lowPassFilterCoeff : Double
  commandInType : String
  commandFrame : String
  /-- `ros::Duration(incoming_command_timeout)`. -/
  incomingCommandTimeout : Int
  lowerSingularityThreshold : Double
  hardStopSingularityThreshold : Double
  collisionProximityThreshold : Double
  jointLimitMargin : Double
  commandOutType : String
  publishJointPositions : Bool
  publishJointVelocities : Bool
  publishJointAccelerations : Bool
deriving DecidableEq, Repr

/-- The fields of `JogArmShared` that the modelled functions read or write. -/
structure JogArmShared where
  commandDeltas : TwistStamped
  jointCommandDeltas : JointJog
  joints : JointState
  zeroCartesianCmdFlag : Bool
  zeroJointCmdFlag : Bool
  commandIsStale : Bool
  incomingCmdStamp : Int
  newTraj : JointTrajectory
  okToPublish : Bool
deriving DecidableEq, Repr

/-- What one tick of the publish loop hands to `outgoing_cmd_pub.publish`. -/
inductive Publication where
  | trajectory (traj : JointTrajectory)
  | multiArray (data : List ℚ)
  /-- `new_traj.points[0]` of a trajectory without points: undefined in the source. -/
  | firstPointMissing
deriving DecidableEq, Repr

variable (params : JogArmParameters) (shared : JogArmShared)

/-- `deltaCartesianCmdCB`: the twist and its stamp are stored (the frame stays the one set at
startup), the command is flagged when all six components are zero, and the shared command
stamp becomes the message's. -/
def deltaCartesianCmdCB (msg : TwistStamped) : JogArmShared :=
  let twist := msg.twist
  { shared with
    commandDeltas :=
      { twist, header := { shared.commandDeltas.header with stamp := msg.header.stamp } }
    zeroCartesianCmdFlag :=
      twist.linear.x == 0 && twist.linear.y == 0 && twist.linear.z == 0 &&
        twist.angular.x == 0 && twist.angular.y == 0 && twist.angular.z == 0
    incomingCmdStamp := msg.header.stamp }

/-- `deltaJointCmdCB`: the command is stored with the configured frame, flagged when all its
deltas are zero, and the shared command stamp becomes the message's. -/
def deltaJointCmdCB (msg : JointJog) : JogArmShared :=
  { shared with
    jointCommandDeltas := { msg with header := { msg.header with frameId := params.commandFrame } }
    zeroJointCmdFlag := msg.deltas.all (· == 0)
    incomingCmdStamp := msg.header.stamp }

/-- `jointsCB`. -/
def jointsCB (msg : JointState) : JogArmShared := { shared with joints := msg }

/-- `joints.data = new_traj.points[0].field`. -/
def firstPointData (newTraj : JointTrajectory) (field : JointTrajectoryPoint → List ℚ) :
    Publication :=
  match newTraj.points with
  | [] => .firstPointMissing
  | point :: _ => .multiArray (field point)

/-- `new_traj` in the form `command_out_type` selects, stamped `now` as a trajectory; an array
reads `points[0]` only for positions or velocities, and is otherwise published empty; no
message for another output type. -/
def outgoingCommand (newTraj : JointTrajectory) (now : Int) : Option Publication :=
  if params.commandOutType = "trajectory_msgs/JointTrajectory" then
    some (.trajectory { newTraj with header := { newTraj.header with stamp := now } })
  else if params.commandOutType = "std_msgs/Float64MultiArray" then
    some (if params.publishJointPositions then firstPointData newTraj (·.positions)
      else if params.publishJointVelocities then firstPointData newTraj (·.velocities)
      else .multiArray [])
  else none

/-- One iteration of the publish loop of the `JogROSInterface` constructor at time `now`: the
staleness flag is set from the shared stamp, then `new_traj` is published if `ok_to_publish`
is set. -/
def publishTick (now : Int) : JogArmShared × Option Publication :=
  let newTraj := shared.newTraj
  let shared := { shared with
    commandIsStale :=
      if now - shared.incomingCmdStamp < params.incomingCommandTimeout then false else true }
  (shared, if shared.okToPublish then outgoingCommand params newTraj now else none)

/-- Modelled from the spec: one step of the jog-calculation thread, whose `JogCalcs` source is
not among the sources.  A stale or all-zero command is not computed and clears
`ok_to_publish`; otherwise `ok_to_publish` and `new_traj` are what the calculation produced,
given as `publish` and `traj`. -/
def jogCalcStep (publish : Bool) (traj : JointTrajectory) : JogArmShared :=
  if shared.commandIsStale || (shared.zeroCartesianCmdFlag && shared.zeroJointCmdFlag) then
    { shared with okToPublish := false }
  else
    { shared with okToPublish := publish, newTraj := traj }

section Samples

/-- A configuration `readParameters` accepts: trajectories out, a 0.1 s command timeout. -/
def sampleParameters : JogArmParameters where
  collisionCheckRate := 10
  lowPassFilterCoeff := 2
  commandInType := "unitless"
  commandFrame := "base_link"
  incomingCommandTimeout := 100000000
  lowerSingularityThreshold := 17
  hardStopSingularityThreshold := 30
  collisionProximityThreshold := 1
  jointLimitMargin := 1
  commandOutType := "trajectory_msgs/JointTrajectory"
  publishJointPositions := true
  publishJointVelocities := false
  publishJointAccelerations := false

/-- The shared state before any message: empty messages, zero stamps, every flag cleared. -/
def idleShared : JogArmShared where
  commandDeltas := ⟨⟨0, ""⟩, ⟨⟨0, 0, 0⟩, ⟨0, 0, 0⟩⟩⟩
  jointCommandDeltas := ⟨⟨0, ""⟩, [], []⟩
  joints := ⟨⟨0, ""⟩, [], []⟩
  zeroCartesianCmdFlag := false
  zeroJointCmdFlag := false
  commandIsStale := false
  incomingCmdStamp := 0
  newTraj := ⟨⟨0, ""⟩, [], []⟩
  okToPublish := false

/-- A Cartesian command along `x`, stamped `stamp`. -/
def xCommand (stamp : Int) : TwistStamped := ⟨⟨stamp, "base_link"⟩, ⟨⟨1, 0, 0⟩, ⟨0, 0, 0⟩⟩⟩

end Samples

section Fields

variable {params : JogArmParameters} {shared : JogArmShared} {now : Int}

@[simp] theorem deltaCartesianCmdCB_flags (msg : TwistStamped) :
    (deltaCartesianCmdCB shared msg).commandIsStale = shared.commandIsStale ∧
      (deltaCartesianCmdCB shared msg).okToPublish = shared.okToPublish ∧
      (deltaCartesianCmdCB shared msg).incomingCmdStamp = msg.header.stamp := ⟨rfl, rfl, rfl⟩

@[simp] theorem deltaJointCmdCB_flags (msg : JointJog) :
    (deltaJointCmdCB params shared msg).commandIsStale = shared.commandIsStale ∧
      (deltaJointCmdCB params shared msg).okToPublish = shared.okToPublish ∧
      (deltaJointCmdCB params shared msg).incomingCmdStamp = msg.header.stamp := ⟨rfl, rfl, rfl⟩

@[simp] theorem jointsCB_flags (msg : JointState) :
    (jointsCB shared msg).commandIsStale = shared.commandIsStale ∧
      (jointsCB shared msg).okToPublish = shared.okToPublish ∧
      (jointsCB shared msg).incomingCmdStamp = shared.incomingCmdStamp := ⟨rfl, rfl, rfl⟩

theorem publishTick_state :
    (publishTick params shared now).1 =
      { shared with
        commandIsStale := decide (params.incomingCommandTimeout ≤ now - shared.incomingCmdStamp) } := by
  simp only [publishTick]
  congr 1
  by_cases fresh : now - shared.incomingCmdStamp < params.incomingCommandTimeout
  · rw [if_pos fresh, eq_comm, decide_eq_false_iff_not]
    omega
  · rw [if_neg fresh, eq_comm, decide_eq_true_eq]
    omega

/-- A tick publishes exactly when `ok_to_publish` is set and the output type is one of the two
it knows, whatever its own staleness check found. -/
theorem publishTick_publishes_iff :
    (publishTick params shared now).2.isSome = true ↔
      shared.okToPublish = true ∧ (params.commandOutType = "trajectory_msgs/JointTrajectory" ∨
        params.commandOutType = "std_msgs/Float64MultiArray") := by
  simp only [publishTick, outgoingCommand]
  split_ifs <;> simp_all

theorem jogCalcStep_of_stale (stale : shared.commandIsStale = true) (publish : Bool)
    (traj : JointTrajectory) : jogCalcStep shared publish traj = { shared with okToPublish := false } := by
  simp [jogCalcStep, stale]

theorem jogCalcStep_flags (publish : Bool) (traj : JointTrajectory) :
    (jogCalcStep shared publish traj).commandIsStale = shared.commandIsStale ∧
      (jogCalcStep shared publish traj).incomingCmdStamp = shared.incomingCmdStamp := by
  unfold jogCalcStep
  split_ifs <;> exact ⟨rfl, rfl⟩

end Fields

end MoveIt.JogArm
