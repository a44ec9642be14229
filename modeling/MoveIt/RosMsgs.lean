import Mathlib.Data.Rat.Defs

namespace MoveIt

/-! # ROS messages

The fields of the ROS messages that the jogging code reads or writes.  A `ros::Time` or a
`ros::Duration` is an integer count of nanoseconds and a `float64` an exact rational: the
modelled code only stores, copies, subtracts and compares them.
-/

/-- `std_msgs/Header`. -/
structure Header where
  stamp : Int
  frameId : String
deriving DecidableEq, Repr

/-- `geometry_msgs/Vector3`. -/
structure Vector3 where
  x : ℚ
  y : ℚ
  z : ℚ
deriving DecidableEq, Repr

/-- `geometry_msgs/Twist`. -/
structure Twist where
  linear : Vector3
  angular : Vector3
deriving DecidableEq, Repr

/-- `geometry_msgs/TwistStamped`. -/
structure TwistStamped where
  header : Header
  twist : Twist
deriving DecidableEq, Repr

/-- `control_msgs/JointJog`. -/
structure JointJog where
  header : Header
  jointNames : List String
  deltas : List ℚ
deriving DecidableEq, Repr

/-- `sensor_msgs/JointState`. -/
structure JointState where
  header : Header
  name : List String
  position : List ℚ
deriving DecidableEq, Repr

/-- `trajectory_msgs/JointTrajectoryPoint`. -/
structure JointTrajectoryPoint where
  positions : List ℚ
  velocities : List ℚ
deriving DecidableEq, Repr

/-- `trajectory_msgs/JointTrajectory`. -/
structure JointTrajectory where
  header : Header
  jointNames : List String
  points : List JointTrajectoryPoint
deriving DecidableEq, Repr

end MoveIt
