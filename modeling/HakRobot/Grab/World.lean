import HakRobot.Geometry.Rotation
import HakRobot.Proc.Machine
import HakRobot.Ros
import Mathlib.Algebra.Field.Rat
import Mathlib.Data.Rat.Init
import Mathlib.Algebra.Order.Ring.Unbundled.Rat
import Mathlib.Algebra.Ring.Rat
import Mathlib.Logic.Function.Basic

/-!
# The grasp node and what it talks to

The parameters of `vision_grab_moveit.py`, its global variables, and every call
it makes on the gripper, on MoveIt and on ROS as an atomic operation. A call can
raise; a Modbus write that raises may have reached the gripper or not.

The log keeps, newest first, the writes that set the gripper in motion and the
moments the theorems speak of (a function of the script entered or left, a plan
received, a message published). No operation reads it.
-/

namespace HakRobot.Grab

open HakRobot.Geometry HakRobot.Proc

/-! ## Parameters -/

/-- `qx, qy, qz, qw`. -/
def cameraOrientation : Quat ℚ where
  x := -0.7252377665226762
  y := -0.6873142029357756
  z := -0.027661831421397748
  w := 0.029397134798712445

/-- `rotation_matrix`. -/
def rotationMatrix : Mat3 ℚ := cameraOrientation.matrix

/-- `translation_vector`. -/
def translationVector : Vec3 ℚ :=
  ⟨0.8069257484410287, -0.21426010259993233, 1.3317410126411309⟩

/-- `GRASP_APPROACH_Z`. -/
def GRASP_APPROACH_Z : ℚ := 0.10

/-- `GRASP_DOWN_Z`. -/
def GRASP_DOWN_Z : ℚ := 0.02

/-- `READY_JOINT_VALUES`. -/
def READY_JOINT_VALUES : List ℚ := [0, 0, 0, 0, 0, 0]

/-- `TOOL_OFFSET_Z`. -/
def TOOL_OFFSET_Z : ℚ := 0.27

/-! The Modbus registers of the gripper. -/

def ENABLE : Nat := 0x0100
def POSITION_HIGH_8 : Nat := 0x0102
def POSITION_LOW_8 : Nat := 0x0103
def SPEED : Nat := 0x0104
def FORCE : Nat := 0x0105
def MOTION_TRIGGER : Nat := 0x0108

/-! The parameters of the gripper. -/

def GRIPPER_OPEN_POSITION : Nat := 100
def GRIPPER_CLOSE_POSITION : Nat := 9000
def GRIPPER_SPEED : Nat := 100
def GRIPPER_FORCE_FULL : Nat := 100
def GRIPPER_FORCE_GENTLE : Nat := 30

/-! ## Messages -/

/-- `vi_msgs/ObjectInfo`. -/
structure ObjectInfo where
  objectClass : String
  x : ℚ
  y : ℚ
  z : ℚ
deriving DecidableEq

/-- `geometry_msgs/Pose`. -/
structure Pose where
  position : Vec3 ℚ
  orientation : Quat ℚ
deriving DecidableEq

/-- What `move_group.plan()` returns: a tuple with a success flag, or in older
versions the plan alone. -/
inductive PlanResult
  | tuple (success : Bool) (plan : JointTrajectory)
  | bare (plan : JointTrajectory)
deriving DecidableEq

/-- `success` of a result. -/
def PlanResult.success : PlanResult → Bool
  | .tuple success _ => success
  | .bare plan => plan.points.length > 0

/-- `plan` of a result. -/
def PlanResult.plan : PlanResult → JointTrajectory
  | .tuple _ plan => plan
  | .bare plan => plan

/-- What a motion of the arm is asked for. -/
inductive ArmMotion
  | pose (x y z : ℚ)
  | joints (values : List ℚ)
deriving DecidableEq

/-- The registers a motion of the gripper depends on. -/
structure GripperSetting where
  force : Nat
  speed : Nat
  positionHigh : Nat
  positionLow : Nat
deriving DecidableEq, Repr

/-- How a Modbus write ends. -/
inductive WriteOutcome
  | ok
  | raised (applied : Bool)
deriving DecidableEq, Repr

/-- The gripper received the write. -/
def WriteOutcome.applied : WriteOutcome → Bool
  | .ok => true
  | .raised applied => applied

/-! ## The log -/

inductive VisionEvent
  | callback (data : ObjectInfo)
  | taskStarted (base : Vec3 ℚ)
  | taskReturned (result : Bool)
  | taskRaised
  | gripperOpenCalled
  | graspCalled
  | trigger (setting : GripperSetting) (outcome : WriteOutcome)
  | motionRequested (m : ArmMotion)
  | motionReturned (m : ArmMotion) (result : Bool)
  | planned (result : PlanResult)
  | published (msg : JointTrajectory)
deriving DecidableEq

/-! ## State and operations -/

/-- The registers of the gripper, the global variables of the node, and the
log. -/
structure VisionState where
  regs : Nat → Nat
  objectMsg : Option String
  isBusy : Bool
  log : List VisionEvent

/-- The node before its first step, over a gripper in any state. -/
def VisionState.init (regs : Nat → Nat) : VisionState := ⟨regs, none, false, []⟩

/-- The registers as a motion of the gripper would use them. -/
def VisionState.setting (s : VisionState) : GripperSetting where
  force := s.regs FORCE
  speed := s.regs SPEED
  positionHigh := s.regs POSITION_HIGH_8
  positionLow := s.regs POSITION_LOW_8

/-- The atomic operations of the node. -/
inductive VisionOp
  | openInstrument
  | writeRegister (address value : Nat)
  | writeLong (address value : Nat)
  | rospySleep (seconds : ℚ)
  | timeNow
  | getCurrentPose
  | setStartStateToCurrentState
  | setPoseTarget (pose : Pose)
  | setJointValueTarget (jointValues : List ℚ)
  | plan
  | clearPoseTargets
  | execute (plan : JointTrajectory)
  | publish (msg : JointTrajectory)
  | initMoveIt
  | waitForMessage
  | readObjectMsg
  | writeObjectMsg (data : String)
  | readIsBusy
  | writeIsBusy (b : Bool)
  | mark (e : VisionEvent)

/-- The results of the operations. -/
abbrev VisionOp.Res : VisionOp → Type
  | .timeNow => Except PyException ℚ
  | .getCurrentPose => Except PyException Pose
  | .plan => Except PyException PlanResult
  | .waitForMessage => Except PyException String
  | .readObjectMsg => Option String
  | .readIsBusy => Bool
  | .writeObjectMsg _ | .writeIsBusy _ | .mark _ => Unit
  | _ => Except PyException Unit

/-- What is left to the outside world: how a write ends, and for every other
call its result, if it does not raise. -/
abbrev VisionOp.Choice : VisionOp → Type
  | .writeRegister _ _ | .writeLong _ _ => WriteOutcome
  | .timeNow => Option ℚ
  | .getCurrentPose => Option Pose
  | .plan => Option PlanResult
  | .waitForMessage => Option String
  | .readObjectMsg | .readIsBusy | .writeObjectMsg _ | .writeIsBusy _ | .mark _ => Unit
  | _ => Option Unit

/-- Operations of the grasp node. -/
abbrev visionSig : Sig := ⟨VisionOp, VisionOp.Res⟩

/-- A function of the grasp node. -/
abbrev Routine := Prog visionSig PyException

/-- A call that returns `x`, or raises. -/
def called {α : Type} : Option α → Except PyException α
  | some x => .ok x
  | none => .error .failure

namespace VisionState

/-- Append to the log. -/
def note (s : VisionState) (e : VisionEvent) : VisionState := { s with log := e :: s.log }

/-- The log after a write to `address`. -/
def noteWrite (s : VisionState) (address : Nat) (outcome : WriteOutcome) : VisionState :=
  if address = MOTION_TRIGGER then s.note (.trigger s.setting outcome) else s

/-- `write_register(address, value, functioncode=6)`. -/
def writeRegister (s : VisionState) (address value : Nat) (outcome : WriteOutcome) :
    VisionState :=
  let t := s.noteWrite address outcome
  if outcome.applied then { t with regs := Function.update t.regs address value } else t

/-- `write_long(address, value)`: two registers in one message, the high word
first. -/
def writeLong (s : VisionState) (address value : Nat) (outcome : WriteOutcome) : VisionState :=
  let high := Function.update s.regs address (value / 65536)
  if outcome.applied then { s with regs := Function.update high (address + 1) (value % 65536) }
  else s

end VisionState

/-- How a write returns. -/
def WriteOutcome.result : WriteOutcome → Except PyException Unit
  | .ok => .ok ()
  | .raised _ => .error .failure

/-- The grasp node's machine. -/
def vision : Machine visionSig VisionState where
  Choice := VisionOp.Choice
  exec
    | .writeRegister address value, outcome, s =>
        (WriteOutcome.result outcome, s.writeRegister address value outcome)
    | .writeLong address value, outcome, s =>
        (WriteOutcome.result outcome, s.writeLong address value outcome)
    | .plan, none, s => (.error .failure, s)
    | .plan, some result, s => (.ok result, s.note (.planned result))
    | .publish _, none, s => (.error .failure, s)
    | .publish msg, some _, s => (.ok (), s.note (.published msg))
    | .readObjectMsg, _, s => (s.objectMsg, s)
    | .writeObjectMsg data, _, s => ((), { s with objectMsg := some data })
    | .readIsBusy, _, s => (s.isBusy, s)
    | .writeIsBusy b, _, s => ((), { s with isBusy := b })
    | .mark e, _, s => ((), s.note e)
    | .openInstrument, x, s => (called x, s)
    | .rospySleep _, x, s => (called x, s)
    | .timeNow, x, s => (called x, s)
    | .getCurrentPose, x, s => (called x, s)
    | .setStartStateToCurrentState, x, s => (called x, s)
    | .setPoseTarget _, x, s => (called x, s)
    | .setJointValueTarget _, x, s => (called x, s)
    | .clearPoseTargets, x, s => (called x, s)
    | .execute _, x, s => (called x, s)
    | .initMoveIt, x, s => (called x, s)
    | .waitForMessage, x, s => (called x, s)

/-- One operation that cannot raise. -/
def does (o : VisionOp) : Routine o.Res := Prog.perform (σ := visionSig) o

end HakRobot.Grab
