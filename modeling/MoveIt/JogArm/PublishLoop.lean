import MoveIt.JogArm.Parameters

namespace MoveIt.JogArm

/-! # Runs of the jogging server

The subscriber callbacks, the jog-calculation thread and the publish loop each take
`shared_variables_mutex` for the whole of one access, so a run is a sequence of their critical
sections in any order.  Each publish-loop tick leaves a record of what it found and sent.
-/

/-- One critical section of one of the four actors. -/
inductive Event where
  | cartesianCmd (msg : TwistStamped)
  | jointCmd (msg : JointJog)
  | joints (msg : JointState)
  | jogCalc (publish : Bool) (traj : JointTrajectory)
  | publishTick (now : Int)

/-- What one publish-loop tick found and sent. -/
structure TickRecord where
  now : Int
  commandIsStale : Bool
  published : Option Publication

/-- The stamp a command event writes to `incoming_cmd_stamp`. -/
def Event.commandStamp? : Event → Option Int
  | .cartesianCmd msg => some msg.header.stamp
  | .jointCmd msg => some msg.header.stamp
  | _ => none

variable (params : JogArmParameters)

/-- One event, and the record it leaves if it is a tick. -/
def step (shared : JogArmShared) : Event → JogArmShared × Option TickRecord
  | .cartesianCmd msg => (deltaCartesianCmdCB shared msg, none)
  | .jointCmd msg => (deltaJointCmdCB params shared msg, none)
  | .joints msg => (jointsCB shared msg, none)
  | .jogCalc publish traj => (jogCalcStep shared publish traj, none)
  | .publishTick now =>
      ((publishTick params shared now).1,
        some ⟨now, (publishTick params shared now).1.commandIsStale, (publishTick params shared now).2⟩)

/-- A run: the final shared state and the records of its ticks, in order. -/
def run : JogArmShared → List Event → JogArmShared × List TickRecord
  | shared, [] => (shared, [])
  | shared, event :: rest =>
      ((run (step params shared event).1 rest).1,
        (step params shared event).2.toList ++ (run (step params shared event).1 rest).2)

/-- The stamp of the last command of the events on either stream, `initial` if there is none. -/
def lastCommandStamp (events : List Event) (initial : Int) : Int :=
  events.foldl (fun stamp event => event.commandStamp?.getD stamp) initial

variable {params}

theorem step_incomingCmdStamp (shared : JogArmShared) (event : Event) :
    (step params shared event).1.incomingCmdStamp =
      event.commandStamp?.getD shared.incomingCmdStamp := by
  cases event with
  | jogCalc publish traj => exact (jogCalcStep_flags publish traj).2
  | publishTick now => simp [step, publishTick_state, Event.commandStamp?]
  | _ => rfl

/-- The shared command stamp is the stamp of the last command, whichever stream it came on. -/
theorem run_incomingCmdStamp (shared : JogArmShared) (events : List Event) :
    (run params shared events).1.incomingCmdStamp =
      lastCommandStamp events shared.incomingCmdStamp := by
  induction events generalizing shared with
  | nil => rfl
  | cons event rest ih =>
      rw [run, ih, step_incomingCmdStamp]
      rfl

theorem run_append (shared : JogArmShared) (events later : List Event) :
    (run params shared (events ++ later)).1 = (run params (run params shared events).1 later).1 := by
  induction events generalizing shared with
  | nil => rfl
  | cons event rest ih => exact ih _

/-- Every tick at time `now` that finds the command fresh has `now` within the timeout of the
last command received, on either stream: one stamp serves both streams. -/
theorem fresh_tick_bounds_last_command (shared : JogArmShared) (events : List Event) (now : Int)
    (fresh : (run params shared (events ++ [.publishTick now])).1.commandIsStale = false) :
    now - lastCommandStamp events shared.incomingCmdStamp < params.incomingCommandTimeout := by
  rw [run_append] at fresh
  have tick : (run params (run params shared events).1 [.publishTick now]).1 =
      (publishTick params (run params shared events).1 now).1 := rfl
  rw [tick, publishTick_state, decide_eq_false_iff_not, Int.not_le, run_incomingCmdStamp] at fresh
  exact fresh

theorem fresh_tick_after_x_command :
    (run sampleParameters idleShared ([.cartesianCmd (xCommand 0)] ++ [.publishTick 0])).1.commandIsStale = false ∧
      0 - lastCommandStamp [.cartesianCmd (xCommand 0)] idleShared.incomingCmdStamp <
        sampleParameters.incomingCommandTimeout :=
  have fresh : (run sampleParameters idleShared
      ([.cartesianCmd (xCommand 0)] ++ [.publishTick 0])).1.commandIsStale = false := by decide
  ⟨fresh, fresh_tick_bounds_last_command _ _ _ fresh⟩

/-- Fresh zero joint commands keep the shared stamp fresh while the last Cartesian command, a
non-zero one, is 0.2 s old. -/
theorem joint_stream_hides_stale_cartesian_command :
    (run sampleParameters idleShared [.cartesianCmd (xCommand 0),
          .jointCmd ⟨⟨200000000, ""⟩, ["joint_1"], [0]⟩, .publishTick 200000000]).1.commandIsStale = false ∧
      (run sampleParameters idleShared [.cartesianCmd (xCommand 0),
          .jointCmd ⟨⟨200000000, ""⟩, ["joint_1"], [0]⟩, .publishTick 200000000]).1.zeroCartesianCmdFlag = false ∧
      ¬(200000000 - (run sampleParameters idleShared [.cartesianCmd (xCommand 0),
          .jointCmd ⟨⟨200000000, ""⟩, ["joint_1"], [0]⟩, .publishTick 200000000]).1.commandDeltas.header.stamp <
        sampleParameters.incomingCommandTimeout) :=
  ⟨rfl, rfl, by decide⟩

/-- A stale command with `ok_to_publish` cleared, as a jog-calculation step leaves it. -/
def Suppressed (shared : JogArmShared) : Prop :=
  shared.commandIsStale = true ∧ shared.okToPublish = false

variable (params) in
/-- From a suppressed state an event either is a tick that finds the command fresh, or keeps
the state suppressed and publishes nothing. -/
theorem step_of_suppressed {shared : JogArmShared} (suppressed : Suppressed shared)
    (event : Event) :
    (∃ record, (step params shared event).2 = some record ∧ record.commandIsStale = false) ∨
      (Suppressed (step params shared event).1 ∧
        ∀ record, (step params shared event).2 = some record → record.published = none) := by
  obtain ⟨stale, cleared⟩ := suppressed
  cases event with
  | cartesianCmd msg => exact .inr ⟨⟨stale, cleared⟩, fun _ none => nomatch none⟩
  | jointCmd msg => exact .inr ⟨⟨stale, cleared⟩, fun _ none => nomatch none⟩
  | joints msg => exact .inr ⟨⟨stale, cleared⟩, fun _ none => nomatch none⟩
  | jogCalc publish traj =>
      refine .inr ⟨?_, fun _ none => nomatch none⟩
      rw [step, jogCalcStep_of_stale stale]
      exact ⟨stale, rfl⟩
  | publishTick now =>
      cases found : decide (params.incomingCommandTimeout ≤ now - shared.incomingCmdStamp)
      · exact .inl ⟨_, rfl, by simp only [publishTick_state, found]⟩
      · refine .inr ⟨⟨by simp only [step, publishTick_state, found], cleared⟩, ?_⟩
        rintro record ⟨⟩
        simp [publishTick, cleared]

/-- From a suppressed state, every tick up to the first that finds the command fresh
publishes nothing. -/
theorem run_of_suppressed {shared : JogArmShared} (suppressed : Suppressed shared)
    (events : List Event) :
    ∀ record ∈ (run params shared events).2.takeWhile (·.commandIsStale),
      record.published = none := by
  induction events generalizing shared with
  | nil => simp [run]
  | cons event rest ih =>
      rcases step_of_suppressed params suppressed event with
        ⟨record, recorded, fresh⟩ | ⟨next, quiet⟩
      · simp [run, recorded, fresh]
      · cases recorded : (step params shared event).2 with
        | none => simpa [run, recorded] using ih next
        | some record =>
            have silent := quiet record recorded
            simp only [run, recorded, Option.toList_some, List.singleton_append,
              List.takeWhile_cons]
            split_ifs
            · intro other member
              rcases List.mem_cons.mp member with rfl | later
              · exact silent
              · exact ih next other later
            · simp

/-- A publish-loop tick publishes exactly when `ok_to_publish` is set, whatever its own
staleness check finds; a jog-calculation step that reads a stale command clears it, and from
then on no tick publishes until one finds the command fresh again. -/
theorem stale_read_suppresses_ticks (shared : JogArmShared) (stale : shared.commandIsStale = true)
    (publish : Bool) (traj : JointTrajectory) (events : List Event) :
    (∀ (state : JogArmShared) (now : Int), (publishTick params state now).2.isSome = true ↔
      state.okToPublish = true ∧ (params.commandOutType = "trajectory_msgs/JointTrajectory" ∨
        params.commandOutType = "std_msgs/Float64MultiArray")) ∧
    ∀ record ∈ (run params (jogCalcStep shared publish traj) events).2.takeWhile (·.commandIsStale),
      record.published = none :=
  ⟨fun _ _ => publishTick_publishes_iff,
    run_of_suppressed (by rw [jogCalcStep_of_stale stale]; exact ⟨stale, rfl⟩) events⟩

/-- A command stamped at 0 is read stale; the ticks at 0.2 s and 0.3 s both find it stale and
publish nothing. -/
theorem stale_read_silences_ticks :
    ({ idleShared with commandIsStale := true } : JogArmShared).commandIsStale = true ∧
      ((∀ (state : JogArmShared) (now : Int), (publishTick sampleParameters state now).2.isSome = true ↔
        state.okToPublish = true ∧
          (sampleParameters.commandOutType = "trajectory_msgs/JointTrajectory" ∨
            sampleParameters.commandOutType = "std_msgs/Float64MultiArray")) ∧
      ∀ record ∈ (run sampleParameters (jogCalcStep { idleShared with commandIsStale := true } true
          ⟨⟨0, ""⟩, [], []⟩) [.publishTick 200000000, .publishTick 300000000]).2.takeWhile
          (·.commandIsStale),
        record.published = none) ∧
      ((run sampleParameters (jogCalcStep { idleShared with commandIsStale := true } true
          ⟨⟨0, ""⟩, [], []⟩) [.publishTick 200000000, .publishTick 300000000]).2.takeWhile
          (·.commandIsStale)).length = 2 :=
  ⟨rfl, stale_read_suppresses_ticks _ rfl true _ _, rfl⟩

/-- A jog-calculation step that read a fresh command sets `ok_to_publish`; the next tick, 0.2 s
later, finds the command stale and still publishes. -/
theorem stale_tick_still_publishes :
    ∃ record ∈ (run sampleParameters idleShared [.cartesianCmd (xCommand 0),
        .publishTick 0, .jogCalc true ⟨⟨0, ""⟩, [], []⟩, .publishTick 200000000]).2,
      record.commandIsStale = true ∧ record.published.isSome = true :=
  ⟨_, List.mem_cons_of_mem _ (List.mem_singleton_self _), rfl, rfl⟩

variable (params) in
/-- No event changes the frame of the stored Cartesian command, and every event leaves the
stored joint command in the configured frame or in the frame it had. -/
theorem step_commandFrames (shared : JogArmShared) (event : Event) :
    (step params shared event).1.commandDeltas.header.frameId = shared.commandDeltas.header.frameId ∧
      ((step params shared event).1.jointCommandDeltas.header.frameId = params.commandFrame ∨
        (step params shared event).1.jointCommandDeltas.header.frameId =
          shared.jointCommandDeltas.header.frameId) := by
  cases event with
  | jointCmd msg => exact ⟨rfl, .inl rfl⟩
  | jogCalc publish traj =>
      unfold step jogCalcStep
      split_ifs <;> exact ⟨rfl, .inr rfl⟩
  | publishTick now => simp [step, publishTick_state]
  | _ => exact ⟨rfl, .inr rfl⟩

theorem run_commandFrames (shared : JogArmShared) (events : List Event) :
    (run params shared events).1.commandDeltas.header.frameId = shared.commandDeltas.header.frameId ∧
      ((shared.jointCommandDeltas.header.frameId = params.commandFrame ∨
          ∃ msg, Event.jointCmd msg ∈ events) →
        (run params shared events).1.jointCommandDeltas.header.frameId = params.commandFrame) := by
  induction events generalizing shared with
  | nil => exact ⟨rfl, fun configured => configured.resolve_right fun ⟨_, member⟩ => nomatch member⟩
  | cons event rest ih =>
      obtain ⟨cartesian, joint⟩ := step_commandFrames params shared event
      obtain ⟨kept, reaches⟩ := ih (step params shared event).1
      refine ⟨kept.trans cartesian, fun configured => reaches ?_⟩
      rcases configured with configured | ⟨msg, member⟩
      · exact .inl (joint.elim id (·.trans configured))
      · rcases List.mem_cons.mp member with rfl | later
        · exact .inl rfl
        · exact .inr ⟨msg, later⟩

theorem readParameters_commandFrame {parameterNs : String} {shared configured : JogArmShared}
    (started : readParameters parameterNs params shared = .ok configured) :
    configured.commandDeltas.header.frameId = params.commandFrame := by
  unfold readParameters at started
  split_ifs at started
  split at started
  · cases started
  · cases started
    rfl

/-- After startup, the commands the jog calculation reads carry the configured frame, whatever
frames the incoming messages name: the Cartesian command keeps the frame `readParameters` set,
and once a joint command has arrived it is stored in that frame too. -/
theorem commands_keep_configured_frame {parameterNs : String} {shared configured : JogArmShared}
    (started : readParameters parameterNs params shared = .ok configured) (events : List Event) :
    (run params configured events).1.commandDeltas.header.frameId = params.commandFrame ∧
      ((∃ msg, Event.jointCmd msg ∈ events) →
        (run params configured events).1.jointCommandDeltas.header.frameId = params.commandFrame) :=
  have frames := run_commandFrames configured events
  ⟨frames.1.trans (readParameters_commandFrame started), fun arrived => frames.2 (.inr arrived)⟩

end MoveIt.JogArm
