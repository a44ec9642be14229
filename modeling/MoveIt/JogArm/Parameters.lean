import MoveIt.JogArm.SharedState

namespace MoveIt.JogArm

/-! # Startup checks of the parameters

`readParameters` reads the options from the parameter server (outside the model), sets the
frame of the Cartesian command, then checks the options one after the other and returns
`false` at the first that fails, after a warning naming the option.  The numeric checks are
`x < 0.` and `hard < lower` on doubles, so a NaN option fails none of them.
-/

/-- The input checks of `readParameters` in their order: when the condition holds, the check
fails with the warning. -/
def parameterChecks (params : JogArmParameters) : List (Bool × String) :=
  [(params.hardStopSingularityThreshold.lt params.lowerSingularityThreshold,
      "Parameter \x27hard_stop_singularity_threshold\x27 should be greater than \x27lower_singularity_threshold.\x27 Check yaml file."),
    (params.hardStopSingularityThreshold.lt 0 || params.lowerSingularityThreshold.lt 0,
      "Parameters \x27hard_stop_singularity_threshold\x27 and \x27lower_singularity_threshold\x27 should be greater than zero. Check yaml file."),
    (params.collisionProximityThreshold.lt 0,
      "Parameter \x27collision_proximity_threshold\x27 should be greater than zero. Check yaml file."),
    (params.lowPassFilterCoeff.lt 0,
      "Parameter \x27low_pass_filter_coeff\x27 should be greater than zero. Check yaml file."),
    (params.jointLimitMargin.lt 0,
      "Parameter \x27joint_limit_margin\x27 should be greater than zero. Check yaml file."),
    (params.commandInType != "unitless" && params.commandInType != "speed_units",
      "command_in_type should be \x27unitless\x27 or \x27speed_units\x27. Check yaml file."),
    (params.commandOutType != "trajectory_msgs/JointTrajectory" &&
        params.commandOutType != "std_msgs/Float64MultiArray",
      "Parameter command_out_type should be \x27trajectory_msgs/JointTrajectory\x27 or \x27std_msgs/Float64MultiArray\x27. Check yaml file."),
    (!params.publishJointPositions && !params.publishJointVelocities &&
        !params.publishJointAccelerations,
      "At least one of publish_joint_positions / publish_joint_velocities / publish_joint_accelerations must be true. Check yaml file."),
    (params.commandOutType == "std_msgs/Float64MultiArray" && params.publishJointPositions &&
        params.publishJointVelocities,
      "When publishing a std_msgs/Float64MultiArray, you must select positions OR velocities."),
    (params.collisionCheckRate.lt 0,
      "Parameter \x27collision_check_rate\x27 should be greater than zero. Check yaml file.")]

/-- `readParameters`, from the options as read: an empty namespace is refused, the frame of
the Cartesian command is set, and the first failing input check returns its warning. -/
def readParameters (parameterNs : String) (params : JogArmParameters) (shared : JogArmShared) :
    Except (List String) JogArmShared :=
  if parameterNs = "" then
    .error ["A namespace must be specified in the launch file, like:",
      "<param name=\"parameter_ns\" type=\"string\" value=\"left_jog_arm_server\" />"]
  else
    match (parameterChecks params).find? (·.1) with
    | some (_, warning) => .error [warning]
    | none =>
        .ok { shared with
          commandDeltas := { shared.commandDeltas with
            header := { shared.commandDeltas.header with frameId := params.commandFrame } } }

variable {parameterNs : String} {params : JogArmParameters} {shared : JogArmShared}

example : ∃ configured, readParameters "jog_server" sampleParameters idleShared = .ok configured :=
  ⟨_, rfl⟩

end MoveIt.JogArm
