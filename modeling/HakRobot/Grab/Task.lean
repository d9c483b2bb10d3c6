import HakRobot.Grab.World

/-!
# The functions of the grasp node

`vision_grab_moveit.py`, function by function: the gripper, the motions of the
arm, the pick-and-place task, the detection callback and the main program. A
`mark` stands where a function is entered or left.
-/

namespace HakRobot.Grab

open HakRobot.Geometry HakRobot.Proc

/-! ## Single calls -/

/-- Bookkeeping, no call of the script. -/
def mark (e : VisionEvent) : Routine Unit := does (.mark e)

/-- `instrument.write_register(address, value, functioncode=6)`. -/
def writeRegister (address value : Nat) : Routine Unit :=
  (does (.writeRegister address value)).bind .ofExcept

/-- `instrument.write_long(address, value)`. -/
def writeLong (address value : Nat) : Routine Unit :=
  (does (.writeLong address value)).bind .ofExcept

/-- `rospy.sleep`. -/
def rospySleep (seconds : ℚ) : Routine Unit := (does (.rospySleep seconds)).bind .ofExcept

/-- `rospy.Time.now()`. -/
def timeNow : Routine ℚ := (does .timeNow).bind .ofExcept

/-- `move_group.get_current_pose().pose`. -/
def getCurrentPose : Routine Pose := (does .getCurrentPose).bind .ofExcept

/-- `move_group.set_start_state_to_current_state()`. -/
def setStartStateToCurrentState : Routine Unit :=
  (does .setStartStateToCurrentState).bind .ofExcept

/-- `move_group.set_pose_target(pose)`. -/
def setPoseTarget (pose : Pose) : Routine Unit := (does (.setPoseTarget pose)).bind .ofExcept

/-- `move_group.set_joint_value_target(joint_values)`. -/
def setJointValueTarget (jointValues : List ℚ) : Routine Unit :=
  (does (.setJointValueTarget jointValues)).bind .ofExcept

/-- `move_group.plan()`. -/
def plan : Routine PlanResult := (does .plan).bind .ofExcept

/-- `move_group.clear_pose_targets()`. -/
def clearPoseTargets : Routine Unit := (does .clearPoseTargets).bind .ofExcept

/-- `move_group.execute(plan, wait=False)`. -/
def execute (p : JointTrajectory) : Routine Unit := (does (.execute p)).bind .ofExcept

/-- `traj_pub.publish(msg)`. -/
def publish (msg : JointTrajectory) : Routine Unit := (does (.publish msg)).bind .ofExcept

/-! ## The gripper -/

/-- `gripper_init`. -/
def gripperInit : Routine Unit := do
  (does .openInstrument).bind .ofExcept
  writeRegister ENABLE 1
  rospySleep 0.5

/-- `gripper_set_force`. -/
def gripperSetForce (forcePercent : Nat) : Routine Unit := writeRegister FORCE forcePercent

/-- `gripper_set_speed`. -/
def gripperSetSpeed (speed : Nat) : Routine Unit := writeRegister SPEED speed

/-- `gripper_move_to`. -/
def gripperMoveTo (position : Nat) : Routine Unit := do
  writeLong POSITION_HIGH_8 position
  writeRegister MOTION_TRIGGER 1

/-- `gripper_open`. -/
def gripperOpen : Routine Unit := do
  mark .gripperOpenCalled
  gripperSetForce GRIPPER_FORCE_FULL
  gripperSetSpeed GRIPPER_SPEED
  gripperMoveTo GRIPPER_OPEN_POSITION
  rospySleep 2

/-- `gripper_grasp_gentle`. -/
def gripperGraspGentle : Routine Unit := do
  mark .graspCalled
  gripperSetForce GRIPPER_FORCE_GENTLE
  gripperSetSpeed 50
  gripperMoveTo GRIPPER_CLOSE_POSITION
  rospySleep 4

/-! ## Geometry and trajectories -/

/-- `convert_camera_to_base`. -/
def convertCameraToBase (x y z : ℚ) : Vec3 ℚ := rotationMatrix.apply ⟨x, y, z⟩ + translationVector

/-- `tcp_to_flange`. -/
def tcpToFlange (targetX targetY targetZ : ℚ) : Routine (Vec3 ℚ) := do
  let currentPose ← getCurrentPose
  let toolOffsetBase := currentPose.orientation.matrix.apply ⟨0, 0, TOOL_OFFSET_Z⟩
  return (⟨targetX, targetY, targetZ⟩ - toolOffsetBase)

/-- `downsample_trajectory_points`: the last point only. -/
def downsampleTrajectoryPoints (allPoints : List JointTrajectoryPoint) :
    List JointTrajectoryPoint :=
  allPoints.getLast?.toList

/-- `sampled_points[-1].time_from_start.to_sec() + 1.0`. -/
def waitTime (sampledPoints : List JointTrajectoryPoint) : ℚ :=
  (sampledPoints.getLast?.map (·.timeFromStart)).getD 0 + 1

/-- `publish_to_hk_driver`. -/
def publishToHkDriver (plan : JointTrajectory) : Routine Bool := do
  if plan.points.length = 0 then
    return false
  let sampledPoints := downsampleTrajectoryPoints plan.points
  if sampledPoints.length = 0 then
    return false
  let stamp ← timeNow
  let trajMsg : JointTrajectory := ⟨stamp, plan.jointNames, sampledPoints⟩
  execute plan
  publish trajMsg
  rospySleep (waitTime sampledPoints)
  return true

/-! ## Motions -/

/-- The body of `move_to_pose_joint_space`. -/
def planToPose (x y z : ℚ) : Routine Bool := do
  let flange ← tcpToFlange x y z
  let currentPose ← getCurrentPose
  let targetPose : Pose := ⟨flange, currentPose.orientation⟩
  setStartStateToCurrentState
  setPoseTarget targetPose
  let result ← plan
  clearPoseTargets
  if result.success then
    publishToHkDriver result.plan
  else
    return false

/-- The body of `move_to_joint_values`. -/
def planToJointValues (jointValues : List ℚ) : Routine Bool := do
  setStartStateToCurrentState
  setJointValueTarget jointValues
  let result ← plan
  if result.success then
    publishToHkDriver result.plan
  else
    return false

/-- `body`, with its request and its return in the log. -/
def motion (m : ArmMotion) (body : Routine Bool) : Routine Bool := do
  mark (.motionRequested m)
  let b ← body
  mark (.motionReturned m b)
  return b

/-- `move_to_pose_joint_space`. -/
def moveToPoseJointSpace (x y z : ℚ) : Routine Bool := motion (.pose x y z) (planToPose x y z)

/-- `move_to_joint_values`. -/
def moveToJointValues (jointValues : List ℚ) : Routine Bool :=
  motion (.joints jointValues) (planToJointValues jointValues)

/-! ## The task -/

/-- `for i in range(n, 0, -1): rospy.sleep(1.0)`. -/
def countdown : Nat → Routine Unit
  | 0 => return ()
  | n + 1 => do
      rospySleep 1
      countdown n

/-- The steps of `pick_and_place_task`. -/
def pickAndPlaceSteps (base : Vec3 ℚ) : Routine Bool := do
  gripperOpen
  if !(← moveToPoseJointSpace base.x base.y (base.z + GRASP_APPROACH_Z)) then
    return false
  if !(← moveToPoseJointSpace base.x base.y (base.z + GRASP_DOWN_Z)) then
    return false
  countdown 5
  gripperGraspGentle
  -- Step 6: the result of this motion is not looked at
  let _ ← moveToJointValues READY_JOINT_VALUES
  countdown 30
  gripperOpen
  return true

/-- `pick_and_place_task`. -/
def pickAndPlaceTask (base : Vec3 ℚ) : Routine Bool := do
  mark (.taskStarted base)
  let b ← (pickAndPlaceSteps base).tryCatch fun e => (mark .taskRaised).bind fun _ => .raise e
  mark (.taskReturned b)
  return b

/-! ## The callback and the main program -/

/-- The `try` block of `object_pose_callback`. -/
def graspDetection (data : ObjectInfo) : Routine Unit := do
  let base := convertCameraToBase data.x data.y data.z
  if base.z < 0 ∨ base.z > 0.8 then
    -- cleared here, and once more in `finally`
    does (.writeIsBusy false)
  else
    let _ ← pickAndPlaceTask base
    return ()

/-- `except Exception as e`, which logs and goes on. -/
def exceptException (p : Routine Unit) : Routine Unit :=
  p.tryCatch fun e => if e = .systemExit then .raise e else .ret ()

/-- `object_pose_callback`. -/
def objectPoseCallback (data : ObjectInfo) : Routine Unit := do
  mark (.callback data)
  let objectMsg ← does .readObjectMsg
  if objectMsg = none then
    return ()
  if ← does .readIsBusy then
    return ()
  if objectMsg ≠ some data.objectClass then
    return ()
  does (.writeIsBusy true)
  (exceptException (graspDetection data)).tryFinally (does (.writeIsBusy false))

/-- `except Exception: sys.exit(1)`. -/
def orExit (p : Routine Unit) : Routine Unit := p.tryCatch fun _ => .raise .systemExit

/-- The main program up to `rospy.spin()`. -/
def startUp : Routine Unit := do
  orExit do
    gripperInit
    gripperOpen
  orExit ((does .initMoveIt).bind .ofExcept)
  rospySleep 1
  let data ← (does .waitForMessage).bind .ofExcept
  does (.writeObjectMsg data)

/-- The main program, for the detections that are handled one after another. -/
def main (detections : List ObjectInfo) : Routine Unit := do
  startUp
  Prog.forEach objectPoseCallback detections

end HakRobot.Grab
