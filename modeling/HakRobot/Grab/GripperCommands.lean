import HakRobot.Grab.Spec

/-!
# Every motion of the gripper is the intended one

Four writes make one gripper command, and any of them can fail; the next command
writes all of them again before its own trigger. So the registers hold a whole
setting whenever the gripper is set in motion, and the gripper is closed only
after the two motions that bring it to the object.
-/

namespace HakRobot.Grab

open HakRobot.Geometry HakRobot.Proc

/-- The motion of Step 2. -/
def approachMotion (base : Vec3 ℚ) : ArmMotion := .pose base.x base.y (base.z + GRASP_APPROACH_Z)

/-- The motion of Step 3. -/
def descendMotion (base : Vec3 ℚ) : ArmMotion := .pose base.x base.y (base.z + GRASP_DOWN_Z)

/-! ## Reading a log -/

/-- The requests and returns of motions, newest first. -/
def motionEvents (log : List VisionEvent) : List VisionEvent :=
  log.filter fun
    | .motionRequested _ | .motionReturned _ _ => true
    | _ => false

/-- The detection of the callback that is being handled. -/
def lastCallback : List VisionEvent → Option ObjectInfo
  | [] => none
  | .callback data :: _ => some data
  | _ :: past => lastCallback past

/-- The target of the task that is in progress. -/
def lastTask : List VisionEvent → Option (Vec3 ℚ)
  | [] => none
  | .taskStarted base :: _ => some base
  | _ :: past => lastTask past

/-- A write to the trigger, or the start of a callback. -/
def VisionEvent.Boundary : VisionEvent → Prop
  | .trigger _ _ | .callback _ => True
  | _ => False

/-- Within the callback of `data` and since the last open trigger, the motions
were exactly the approach and the descent to its target, both successful, and
the target is in the safe range. -/
def Earned (past : List VisionEvent) : Prop :=
  ∃ (data : ObjectInfo) (recent older : List VisionEvent),
    past = recent ++ .trigger openSetting .ok :: older ∧
    (∀ e ∈ recent, ¬ e.Boundary) ∧ lastCallback older = some data ∧
    let base := convertCameraToBase data.x data.y data.z
    motionEvents recent =
      [.motionReturned (descendMotion base) true, .motionRequested (descendMotion base),
        .motionReturned (approachMotion base) true, .motionRequested (approachMotion base)] ∧
    0 ≤ base.z ∧ base.z ≤ 0.8

/-- The registers a trigger finds, and what a gentle one needs. -/
def CommandOk : VisionEvent → List VisionEvent → Prop
  | .trigger setting _, past =>
      (setting = openSetting ∨ setting = gentleSetting) ∧
        (setting = gentleSetting → Earned past)
  | _, _ => True

/-- Step 3 of the task in progress has just returned `True`: the robot was asked
to go to the `last` point of its plan, in `msg`. -/
def StepThree (past : List VisionEvent) (last : JointTrajectoryPoint) (msg : JointTrajectory) :
    Prop :=
  ∃ (base : Vec3 ℚ) (result : PlanResult) (older : List VisionEvent),
    lastTask older = some base ∧ result.plan.points.getLast? = some last ∧ msg.points = [last] ∧
    past = .motionReturned (descendMotion base) true :: .published msg :: .planned result ::
      .motionRequested (descendMotion base) :: older

/-- The gripper is closed only after the descent. -/
def GraspOk : VisionEvent → List VisionEvent → Prop
  | .graspCalled, past => ∃ last msg, StepThree past last msg
  | _, _ => True

/-- Both conditions. -/
def TaskOk (e : VisionEvent) (past : List VisionEvent) : Prop := CommandOk e past ∧ GraspOk e past

theorem TaskOk.neutral (e : VisionEvent) (past : List VisionEvent) (he : e.Neutral) :
    TaskOk e past := by
  cases e with
  | trigger _ _ => exact he.elim
  | graspCalled => exact he.elim
  | _ => exact ⟨trivial, trivial⟩

theorem TaskOk.open (outcome : WriteOutcome) (past : List VisionEvent) :
    TaskOk (.trigger openSetting outcome) past :=
  ⟨⟨.inl rfl, fun h => absurd h (by decide)⟩, trivial⟩

/-- A motion that returned `True` logged four events. -/
theorem MotionLog.of_true {m : ArmMotion} {log log' : List VisionEvent}
    (h : MotionLog m true log log') :
    ∃ result msg, EndPointOf result msg ∧
      log' = .motionReturned m true :: .published msg :: .planned result ::
        .motionRequested m :: log := by
  obtain ⟨_, ⟨mid, rfl, _, htrue⟩, rfl⟩ := h
  obtain ⟨result, msg, hmsg, rfl⟩ := htrue rfl
  exact ⟨result, msg, hmsg, rfl⟩

/-- The log when Step 5 begins has earned the grasp. -/
theorem earned_of_steps {data : ObjectInfo} {L : List VisionEvent} {base : Vec3 ℚ}
    (hbase : base = convertCameraToBase data.x data.y data.z) (hlow : 0 ≤ base.z)
    (hhigh : base.z ≤ 0.8) {r₁ r₂ : PlanResult} {msg₁ msg₂ : JointTrajectory} :
    Earned (.graspCalled ::
      .motionReturned (descendMotion base) true :: .published msg₂ :: .planned r₂ ::
      .motionRequested (descendMotion base) ::
      .motionReturned (approachMotion base) true :: .published msg₁ :: .planned r₁ ::
      .motionRequested (approachMotion base) ::
      .trigger openSetting .ok :: .gripperOpenCalled :: .taskStarted base :: .callback data ::
      L) := by
  subst hbase
  refine ⟨data, .graspCalled ::
      .motionReturned (descendMotion _) true :: .published msg₂ :: .planned r₂ ::
      .motionRequested (descendMotion _) ::
      .motionReturned (approachMotion _) true :: .published msg₁ :: .planned r₁ ::
      [.motionRequested (approachMotion _)], _, rfl, ?_, rfl, rfl, hlow, hhigh⟩
  simp [VisionEvent.Boundary]

/-! ## The task -/

variable {R : vision.Rely}

theorem pickAndPlaceSteps_spec (data : ObjectInfo) {base : Vec3 ℚ} {L : List VisionEvent}
    {s : VisionState} (hs : Always TaskOk s.log)
    (hlog : s.log = .taskStarted base :: .callback data :: L)
    (hbase : base = convertCameraToBase data.x data.y data.z) (hlow : 0 ≤ base.z)
    (hhigh : base.z ≤ 0.8) :
    Safe R TaskOk (pickAndPlaceSteps base) (fun _ _ => True) (fun _ => True) s := by
  refine Safe.seq (gripperOpen_spec hs ⟨trivial, trivial⟩ fun o => .open o _) ?_ fun _ _ => trivial
  intro _ s₂ hs₂ hlog₂
  refine Safe.seq (moveToPoseJointSpace_spec TaskOk.neutral _ _ _ hs₂) ?_ fun _ _ => trivial
  intro b₁ s₃ hs₃ hlog₃
  cases b₁ with
  | false => exact ⟨hs₃, trivial⟩
  | true =>
      -- Step 3
      obtain ⟨r₁, msg₁, _, hlog₃⟩ := hlog₃.of_true
      refine Safe.seq (moveToPoseJointSpace_spec TaskOk.neutral _ _ _ hs₃) ?_ fun _ _ => trivial
      intro b₂ s₄ hs₄ hlog₄
      cases b₂ with
      | false => exact ⟨hs₄, trivial⟩
      | true =>
          obtain ⟨r₂, msg₂, hmsg₂, hlog₄⟩ := hlog₄.of_true
          refine Safe.seq (silent_spec (countdown_silent 5) hs₄) ?_ fun _ _ => trivial
          intro _ s₅ hs₅ hlog₅
          -- Step 5: the log of Steps 1 to 4 is known event by event
          have htask : lastTask s₃.log = some base := by
            rw [hlog₃, hlog₂, hlog]
            rfl
          have hgrasp : TaskOk .graspCalled s₅.log := by
            obtain ⟨last, hlast, hpoints⟩ := hmsg₂
            exact ⟨trivial, last, msg₂, base, r₂, s₃.log, htask, hlast, hpoints, hlog₅.trans hlog₄⟩
          have hgentle : ∀ o, TaskOk (.trigger gentleSetting o) (.graspCalled :: s₅.log) := by
            refine fun o => ⟨⟨.inr rfl, fun _ => ?_⟩, trivial⟩
            rw [hlog₅, hlog₄, hlog₃, hlog₂, hlog]
            exact earned_of_steps hbase hlow hhigh
          refine Safe.seq (gripperGraspGentle_spec hs₅ hgrasp hgentle) ?_ fun _ _ => trivial
          intro _ s₆ hs₆ _
          -- Steps 6 to 8 close nothing
          refine Safe.seq (moveToJointValues_spec TaskOk.neutral _ hs₆) ?_ fun _ _ => trivial
          intro _ s₇ hs₇ _
          refine Safe.seq (silent_spec (countdown_silent 30) hs₇) ?_ fun _ _ => trivial
          intro _ s₈ hs₈ _
          refine Safe.seq (gripperOpen_spec hs₈ ⟨trivial, trivial⟩ fun o => .open o _) ?_
            fun _ _ => trivial
          exact fun _ s₉ hs₉ _ => ⟨hs₉, trivial⟩

/-- At every moment of every run the log meets both conditions. -/
theorem main_taskOk (regs : Nat → Nat) (detections : List ObjectInfo) :
    Safe R TaskOk (main detections) (fun _ _ => True) (fun _ => True) (.init regs) := by
  refine main_spec (I := fun _ => True) regs ⟨trivial, trivial⟩ (fun o => .open o _) trivial ?_
    detections
  intro data s hs _
  refine objectPoseCallback_spec (I := fun _ => True) TaskOk.neutral data hs trivial ?_
  intro s' hs' hlog hlow hhigh
  refine Safe.mono (pickAndPlaceTask_spec (P := fun _ _ => True) (F := fun _ => True)
    TaskOk.neutral _ hs' ?_ fun _ _ _ => ⟨trivial, trivial⟩)
    (fun _ _ _ => trivial) fun _ _ => trivial
  intro t ht hlog'
  rw [hlog] at hlog'
  exact pickAndPlaceSteps_spec data ht hlog' rfl hlow hhigh

/-- **Gripper commands.** In every run of the start-up and any number of
callbacks, with every write, plan and move allowed to fail or raise: each write
to the trigger finds in the registers the whole setting of an opening or of a
gentle grasp, and a gentle grasp has been earned. -/
theorem gripper_commands (regs : Nat → Nat) (detections : List ObjectInfo)
    {d : Routine Unit × VisionState}
    (hrun : vision.Steps vision.anyChoice (main detections, .init regs) d) :
    Always CommandOk d.2.log := by
  have hwp : vision.wp vision.anyChoice (fun s _ => Always TaskOk s.log) (main detections)
      (fun _ s => Always TaskOk s.log) (fun _ s => Always TaskOk s.log) (.init regs) :=
    Machine.wp_mono (fun _ _ h => h.1) (fun _ _ h => h.1) (main_taskOk regs detections)
  have hlog : Always TaskOk d.2.log :=
    Machine.wp_invariant (I := fun s : VisionState => Always TaskOk s.log) hwp hrun
  exact hlog.mono fun _ _ h => h.1

/-! ## A run without failures -/

/-- A plan of one point. -/
def shortPlan : JointTrajectory := ⟨0, [], [⟨READY_JOINT_VALUES, [], [], 1⟩]⟩

/-- Every call succeeds, and every plan is found. -/
def VisionOp.success : (o : VisionOp) → o.Choice
  | .writeRegister _ _ | .writeLong _ _ => .ok
  | .timeNow => some 0
  | .getCurrentPose => some ⟨⟨0, 0, 0⟩, ⟨0, 0, 0, 1⟩⟩
  | .plan => some (.tuple true shortPlan)
  | .waitForMessage => some "bottle"
  | .readObjectMsg | .readIsBusy | .writeObjectMsg _ | .writeIsBusy _ | .mark _ => ()
  | .openInstrument | .rospySleep _ | .setStartStateToCurrentState | .setPoseTarget _
  | .setJointValueTarget _ | .clearPoseTargets | .execute _ | .publish _ | .initMoveIt => some ()

/-- A bottle one metre below the camera. -/
def bottle : ObjectInfo := ⟨"bottle", 0, 0, 1⟩

/-- The start-up and the callback for one bottle. -/
def oneBottle : Except PyException Unit × VisionState :=
  vision.run (fun _ => VisionOp.success) (main [bottle]) (.init fun _ => 0)

theorem oneBottle_steps :
    vision.Steps vision.anyChoice (main [bottle], .init fun _ => 0)
      (.ofExcept oneBottle.1, oneBottle.2) :=
  Machine.run_steps (fun _ _ => trivial) _ _

/-- `gripper_commands` for one bottle, which is grasped. -/
theorem gripper_commands_oneBottle :
    .trigger gentleSetting .ok ∈ oneBottle.2.log ∧ Always CommandOk oneBottle.2.log :=
  ⟨by decide +kernel, gripper_commands (fun _ => 0) [bottle] oneBottle_steps⟩

end HakRobot.Grab
