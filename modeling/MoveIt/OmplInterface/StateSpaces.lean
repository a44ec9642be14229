import Mathlib.Data.List.AList

namespace MoveIt.OmplInterface

/-! # Building state spaces

Two pieces of the OMPL interface that say which state space a planning request gets.
`ModelBasedStateSpaceSpecification` (`model_based_state_space.h`) names the joint model group a
state space plans for; built from a group name, it throws when the robot model has no such group.
`PlanningContextManager` (`planning_context_manager.h`) keeps the registered state-space
factories in a `std::map` keyed by each factory's type, so registering a factory replaces the
factory of its type.  The robot model, its groups and the factories are parameters: their code is
not among the sources.
-/

/-- `ModelBasedStateSpaceSpecification`, with the fields its constructors set (`joint_bounds_`
stays empty). -/
structure ModelBasedStateSpaceSpecification (RobotModel JointModelGroup : Type) where
  robotModel : RobotModel
  jointModelGroup : JointModelGroup

namespace ModelBasedStateSpaceSpecification

variable {RobotModel JointModelGroup : Type}
  (getJointModelGroup : RobotModel → String → Option JointModelGroup)

/-- The message of the `std::runtime_error` the constructor throws. -/
def groupNotFoundError (groupName : String) : String :=
  "Group \x27" ++ groupName ++ "\x27  was not found"

/-- `ModelBasedStateSpaceSpecification(robot_model, group_name)`: the group is looked up with
`getJointModelGroup`, and a missing group throws. -/
def ofGroupName (robotModel : RobotModel) (groupName : String) :
    Except String (ModelBasedStateSpaceSpecification RobotModel JointModelGroup) :=
  match getJointModelGroup robotModel groupName with
  | some group => .ok ⟨robotModel, group⟩
  | none => .error (groupNotFoundError groupName)

end ModelBasedStateSpaceSpecification

/-- The member of `PlanningContextManager` that the modelled methods read and write:
`state_space_factories_`, one factory per type. -/
structure PlanningContextManager (Factory : Type) where
  stateSpaceFactories : AList fun _ : String => Factory

namespace PlanningContextManager

variable {Factory : Type} (getType : Factory → String)

/-- `registerStateSpaceFactory(factory)`: `state_space_factories_[factory->getType()] = factory`. -/
def registerStateSpaceFactory (manager : PlanningContextManager Factory) (factory : Factory) :
    PlanningContextManager Factory :=
  { manager with stateSpaceFactories := manager.stateSpaceFactories.insert (getType factory) factory }

/-- `getRegisteredStateSpaceFactories()`. -/
def getRegisteredStateSpaceFactories (manager : PlanningContextManager Factory) :
    AList fun _ : String => Factory :=
  manager.stateSpaceFactories

theorem lookup_registerStateSpaceFactory (manager : PlanningContextManager Factory)
    (factory : Factory) (type : String) :
    (registerStateSpaceFactory getType manager factory).getRegisteredStateSpaceFactories.lookup type =
      if getType factory = type then some factory
      else manager.getRegisteredStateSpaceFactories.lookup type := by
  unfold registerStateSpaceFactory getRegisteredStateSpaceFactories
  split_ifs with same
  · rw [same, AList.lookup_insert]
  · exact AList.lookup_insert_ne (Ne.symm same)

/-- After any sequence of registrations, each type has the factory registered last with that type,
and a type that none of them has keeps the factory it had. -/
theorem lookup_foldl_registerStateSpaceFactory (manager : PlanningContextManager Factory)
    (factories : List Factory) (type : String) :
    (factories.foldl (registerStateSpaceFactory getType) manager).getRegisteredStateSpaceFactories.lookup
        type =
      ((factories.filter fun factory => getType factory = type).getLast?).or
        (manager.getRegisteredStateSpaceFactories.lookup type) := by
  induction factories using List.reverseRecOn with
  | nil => rfl
  | append_singleton earlier factory ih =>
      rw [List.foldl_append, List.foldl_cons, List.foldl_nil, lookup_registerStateSpaceFactory]
      by_cases same : getType factory = type
      · simp [same]
      · simp [same, ih]

end PlanningContextManager

end MoveIt.OmplInterface
