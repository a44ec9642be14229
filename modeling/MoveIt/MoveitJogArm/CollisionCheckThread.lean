import MoveIt.Data.NameMap
import MoveIt.RosMsgs
import MoveIt.MoveitJogArm.VelocityScale

namespace MoveIt.MoveitJogArm

open MoveIt.Data

/-! # The collision check thread

`CollisionCheckThread` of `moveit_jog_arm`: the joint-state subscription callback, the pause
switch and the timer callback `run`, interleaved as a list of events.  A tick copies the latest
joint state into the robot state, asks the planning scene for the two checks and publishes the
velocity scale.

The copy block means to hold a lock while it reads `latest_joint_state_`, but
`const std::lock_guard<std::mutex> lock(CollisionCheckThread);` declares a function and takes no
lock, so a delivery can replace the message between any two reads of the copy loop.  The timer
thread is therefore modelled step by step: `phase` says where it stands in the loop,
`timerStep` takes one step, and the events of the other threads come between steps.  The `run`
event is a whole tick with nothing between its steps, and `runEvents_run_eq_timerSteps` shows
that it ends as those steps do.  The two reads of one loop body, `name[i]` first, are one step.

A read through the empty pointer, or past the end of `name` or `position`, is a `CopyFault`,
after which the thread has no defined behaviour, so a run stops there.  The robot state is its
map from joint names to positions.
-/

/-- An undefined read of the copy loop in `run`. -/
inductive CopyFault
  /-- `latest_joint_state_` is still the empty pointer: no message was delivered. -/
  | noJointState
  /-- `name[index]` past the end of `name`, with `index` inside `position`. -/
  | nameIndexOutOfRange (index : ℕ)
  /-- `position[index]` past the end of `position`: the message was replaced after the loop
  condition read the size of the one before. -/
  | positionIndexOutOfRange (index : ℕ)
deriving DecidableEq, Repr

/-- The two fields of `collision_detection::CollisionResult` that `run` reads. -/
structure CollisionResult where
  distance : ℝ
  collision : Bool

/-- What `run` asks of the planning scene: the robot-versus-scene check of `getCollisionEnv` and
the self check of `getCollisionEnvUnpadded` with the matrix `acm_`, each at the robot state. -/
structure CollisionEnvironment where
  checkRobotCollision : NameMap ℚ → CollisionResult
  checkSelfCollision : NameMap ℚ → CollisionResult

/-- Where the timer thread stands: between ticks, or in the copy loop at `index`, before the
condition `index < position.size()` or after it, before the reads of the body. -/
inductive Phase
  | idle
  | condition (index : ℕ)
  | body (index : ℕ)
deriving DecidableEq, Repr

/-- The members of `CollisionCheckThread` that the callbacks read or write, and where the timer
thread stands. -/
structure CollisionCheckThread where
  currentState : NameMap ℚ
  velocityScale : ℝ
  selfCollisionDistance : ℝ
  sceneCollisionDistance : ℝ
  collisionDetected : Bool
  paused : Bool
  latestJointState : Option JointState
  phase : Phase

/-- The copy loop of `run` from index `index`: `setJointPositions(name[i], &position[i])` while
`i < position.size()`. -/
def copyPositions (index : ℕ) : List String → List ℚ → NameMap ℚ → Except CopyFault (NameMap ℚ)
  | _, [], positions => .ok positions
  | name :: names, position :: rest, positions =>
      copyPositions (index + 1) names rest (positions.insert name position)
  | [], _ :: _, _ => .error (.nameIndexOutOfRange index)

/-- The copy block of `run`, through the pointer `latest_joint_state_`. -/
def copyJointState (latestJointState : Option JointState) (positions : NameMap ℚ) :
    Except CopyFault (NameMap ℚ) :=
  match latestJointState with
  | none => .error .noJointState
  | some msg => copyPositions 0 msg.name msg.position positions

namespace CollisionCheckThread

/-- The state after the constructor and `start()`, with the header defaults; the robot state is
the planning scene current state. -/
def initial (currentState : NameMap ℚ) : CollisionCheckThread where
  currentState := currentState
  velocityScale := 1
  selfCollisionDistance := 0
  sceneCollisionDistance := 0
  collisionDetected := false
  paused := false
  latestJointState := none
  phase := .idle

def jointStateCB (thread : CollisionCheckThread) (msg : JointState) : CollisionCheckThread :=
  { thread with latestJointState := some msg }

def setPaused (thread : CollisionCheckThread) (paused : Bool) : CollisionCheckThread :=
  { thread with paused := paused }

variable (params : JogArmParameters) (env : CollisionEnvironment)

/-- The rest of a tick after the copy: the scene check, the self check and the scale, which is
published; the thread is between ticks again. -/
noncomputable def finishTick (thread : CollisionCheckThread) : CollisionCheckThread × Option ℝ :=
  let sceneResult := env.checkRobotCollision thread.currentState
  let selfResult := env.checkSelfCollision thread.currentState
  let collisionDetected := false || sceneResult.collision || selfResult.collision
  let scale := MoveitJogArm.velocityScale params collisionDetected sceneResult.distance
    selfResult.distance
  ({ thread with
    phase := .idle
    sceneCollisionDistance := sceneResult.distance
    selfCollisionDistance := selfResult.distance
    collisionDetected := collisionDetected
    velocityScale := scale }, some scale)

/-- One whole tick of the timer: nothing while paused; otherwise the copy and the rest of the
tick. -/
noncomputable def run (thread : CollisionCheckThread) :
    Except CopyFault (CollisionCheckThread × Option ℝ) :=
  if thread.paused then .ok (thread, none) else do
    let currentState ← copyJointState thread.latestJointState thread.currentState
    pure (finishTick params env { thread with currentState })

/-- One step of the timer thread.  Between ticks it starts one, which returns at once while
paused; at a condition it reads `latest_joint_state_->position.size()` and, past the end, does the
rest of the tick; in a body it reads `name[index]` and `position[index]` and sets the joint. -/
noncomputable def timerStep (thread : CollisionCheckThread) :
    Except CopyFault (CollisionCheckThread × Option ℝ) :=
  match thread.phase with
  | .idle => .ok (if thread.paused then thread else { thread with phase := .condition 0 }, none)
  | .condition index =>
      match thread.latestJointState with
      | none => .error .noJointState
      | some msg =>
          if index < msg.position.length then .ok ({ thread with phase := .body index }, none)
          else .ok (finishTick params env thread)
  | .body index =>
      match thread.latestJointState with
      | none => .error .noJointState
      | some msg =>
          match msg.name[index]?, msg.position[index]? with
          | none, _ => .error (.nameIndexOutOfRange index)
          | some _, none => .error (.positionIndexOutOfRange index)
          | some name, some position =>
              .ok ({ thread with
                currentState := thread.currentState.insert name position
                phase := .condition (index + 1) }, none)

end CollisionCheckThread

/-- What can happen to the thread: a delivery on the joint topic, a pause request, a whole tick
taken between ticks with nothing inside it, or one step of a tick. -/
inductive Event
  | jointStateCB (msg : JointState)
  | setPaused (paused : Bool)
  | run
  | timerStep

open CollisionCheckThread

/-- One event.  The timer does not start a whole tick over a tick in progress. -/
noncomputable def step (params : JogArmParameters) (env : CollisionEnvironment)
    (thread : CollisionCheckThread) : Event → Except CopyFault (CollisionCheckThread × Option ℝ)
  | .jointStateCB msg => .ok (thread.jointStateCB msg, none)
  | .setPaused paused => .ok (thread.setPaused paused, none)
  | .run => if thread.phase = .idle then thread.run params env else .ok (thread, none)
  | .timerStep => thread.timerStep params env

/-- The events in order, with the scales published; the first fault ends the run. -/
noncomputable def runEvents (params : JogArmParameters) (env : CollisionEnvironment)
    (thread : CollisionCheckThread) : List Event → Except CopyFault (CollisionCheckThread × List ℝ)
  | [] => .ok (thread, [])
  | event :: rest => do
      let (thread, published) ← step params env thread event
      let (final, later) ← runEvents params env thread rest
      pure (final, published.toList ++ later)

section Copy

variable {index : ℕ} {names : List String} {values : List ℚ} {positions : NameMap ℚ}

@[simp] theorem copyPositions_nil : copyPositions index names [] positions = .ok positions := by
  cases names <;> rfl

end Copy

section Runs

variable {params : JogArmParameters} {env : CollisionEnvironment}
  {thread next final : CollisionCheckThread} {rest : List Event}

theorem runEvents_cons {published : Option ℝ} {later : List ℝ} {event : Event}
    (first : step params env thread event = .ok (next, published))
    (tail : runEvents params env next rest = .ok (final, later)) :
    runEvents params env thread (event :: rest) = .ok (final, published.toList ++ later) := by
  simp only [runEvents, first, tail, bind, Except.bind]
  rfl

/-- An event that publishes nothing leaves the rest of the run as it would be from its state. -/
theorem runEvents_of_quiet {event : Event}
    (quiet : step params env thread event = .ok (next, none)) :
    runEvents params env thread (event :: rest) = runEvents params env next rest := by
  simp only [runEvents, quiet, bind, Except.bind]
  rcases runEvents params env next rest with _ | ⟨_, _⟩ <;> rfl

/-- Before any delivery a tick reads through the empty pointer, and a message with more
positions than names makes it read `name` past its end. -/
theorem run_reads_outside_joint_state (params : JogArmParameters) (env : CollisionEnvironment)
    (currentState : NameMap ℚ) :
    runEvents params env (initial currentState) [.run] = .error .noJointState ∧
      runEvents params env (initial currentState)
          [.jointStateCB ⟨⟨0, ""⟩, ["joint_1"], [0, 0]⟩, .run] =
        .error (.nameIndexOutOfRange 1) :=
  ⟨rfl, rfl⟩

section Loop

variable {msg : JointState} {index : ℕ}

/-- One iteration of the copy loop: from the condition at `index`, inside `position` and with a
name at `index`, two steps set the joint and reach the next condition. -/
theorem runEvents_iteration (stored : thread.latestJointState = some msg)
    (reached : thread.phase = .condition index) (inside : index < msg.position.length)
    (named : index < msg.name.length) :
    runEvents params env thread (.timerStep :: .timerStep :: rest) =
      runEvents params env { thread with
        currentState := thread.currentState.insert msg.name[index] msg.position[index]
        phase := .condition (index + 1) } rest := by
  have toBody : step params env thread .timerStep =
      .ok ({ thread with phase := .body index }, none) := by
    simp [step, timerStep, reached, stored, inside]
  have setJoint : step params env { thread with phase := .body index } .timerStep =
      .ok ({ thread with
        currentState := thread.currentState.insert msg.name[index] msg.position[index]
        phase := .condition (index + 1) }, none) := by
    simp [step, timerStep, stored, List.getElem?_eq_getElem named, List.getElem?_eq_getElem inside]
  rw [runEvents_of_quiet toBody, runEvents_of_quiet setJoint]

/-- From the condition at `index`, the rest of the copy loop and of the tick, with nothing between
the steps, ends as `copyPositions` from `index` and the rest of the tick do. -/
theorem runEvents_copy_loop (stored : thread.latestJointState = some msg)
    (reached : thread.phase = .condition index) (remaining : ℕ)
    (length : index + remaining = msg.position.length) :
    runEvents params env thread (List.replicate (2 * remaining + 1) .timerStep) =
      match copyPositions index (msg.name.drop index) (msg.position.drop index)
          thread.currentState with
      | .error fault => .error fault
      | .ok copied =>
          .ok ((finishTick params env { thread with currentState := copied }).1,
            (finishTick params env { thread with currentState := copied }).2.toList) := by
  induction remaining generalizing thread index with
  | zero =>
      have past : msg.position.length ≤ index := by omega
      have finish : step params env thread .timerStep = .ok (finishTick params env thread) := by
        simp [step, timerStep, reached, stored, Nat.not_lt.mpr past]
      have tail : runEvents params env (finishTick params env thread).1 [] =
          .ok ((finishTick params env thread).1, []) := rfl
      rw [List.drop_eq_nil_of_le past, copyPositions_nil, List.replicate_succ, Nat.mul_zero,
        List.replicate_zero, runEvents_cons finish tail, List.append_nil]
      rfl
  | succ remaining ih =>
      have inside : index < msg.position.length := by omega
      rw [List.drop_eq_getElem_cons inside,
        show 2 * (remaining + 1) + 1 = 2 * remaining + 1 + 1 + 1 by omega, List.replicate_succ,
        List.replicate_succ]
      by_cases named : index < msg.name.length
      · rw [runEvents_iteration stored reached inside named, @ih { thread with
            currentState := thread.currentState.insert msg.name[index] msg.position[index]
            phase := .condition (index + 1) } (index + 1) stored rfl (by omega),
          List.drop_eq_getElem_cons named, copyPositions]
        rfl
      · have toBody : step params env thread .timerStep =
            .ok ({ thread with phase := .body index }, none) := by
          simp [step, timerStep, reached, stored, inside]
        have fault : step params env { thread with phase := .body index } .timerStep =
            .error (.nameIndexOutOfRange index) := by
          simp [step, timerStep, stored, List.getElem?_eq_none (Nat.le_of_not_lt named)]
        rw [runEvents_of_quiet toBody, List.drop_eq_nil_of_le (Nat.le_of_not_lt named)]
        simp only [runEvents, fault, copyPositions]
        rfl

end Loop

/-- While paused, a thread between ticks starts no tick: timer steps leave it as it is. -/
theorem runEvents_timerSteps_of_paused (idle : thread.phase = .idle)
    (paused : thread.paused = true) (count : ℕ) :
    runEvents params env thread (List.replicate count .timerStep) = .ok (thread, []) := by
  have stays : step params env thread .timerStep = .ok (thread, none) := by
    simp [step, timerStep, idle, paused]
  induction count with
  | zero => rfl
  | succ count ih => rw [List.replicate_succ, runEvents_of_quiet stays, ih]

/-- Between ticks, a whole tick ends as the steps of one tick with nothing between them do:
`2 * n + 2` steps, `n` the number of positions stored. -/
theorem runEvents_run_eq_timerSteps (idle : thread.phase = .idle) :
    runEvents params env thread [.run] =
      runEvents params env thread (List.replicate
        (2 * (thread.latestJointState.map fun msg => msg.position.length).getD 0 + 2)
        .timerStep) := by
  cases paused : thread.paused
  case true =>
    rw [runEvents_timerSteps_of_paused idle paused]
    simp [runEvents, step, idle, run, paused]
    rfl
  case false =>
    have start : step params env thread .timerStep =
        .ok ({ thread with phase := .condition 0 }, none) := by
      simp [step, timerStep, idle, paused]
    rw [List.replicate_succ, runEvents_of_quiet start]
    rcases Option.eq_none_or_eq_some thread.latestJointState with stored | ⟨msg, stored⟩
    · simp [runEvents, step, timerStep, idle, run, paused, stored, copyJointState, bind,
        Except.bind]
    · rw [show (thread.latestJointState.map fun msg => msg.position.length).getD 0 =
          msg.position.length by rw [stored]; rfl, runEvents_copy_loop
          (show ({ thread with phase := .condition 0 } : CollisionCheckThread).latestJointState =
            some msg from stored) rfl msg.position.length (Nat.zero_add _), List.drop_zero,
        List.drop_zero]
      simp only [runEvents, step, idle, run, paused, stored, copyJointState, if_true,
        Bool.false_eq_true, if_false]
      cases copyPositions 0 msg.name msg.position thread.currentState <;> rfl

end Runs

end MoveIt.MoveitJogArm
