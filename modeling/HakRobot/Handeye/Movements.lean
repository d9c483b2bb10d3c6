import HakRobot.Geometry.Quaternion
import HakRobot.Proc.Trace
import Mathlib.Algebra.Field.Rat
import Mathlib.Algebra.Order.Ring.Unbundled.Rat
import Mathlib.Algebra.Ring.Rat

/-!
# The movements of the hand-eye calibration

`CalibrationMovements` of `handeye_robot.py` and the services of `HandeyeServerRobot`.
Each request for a service runs in a thread of its own, all on one
`CalibrationMovements`, so every read and every assignment of an attribute is an
operation, as is every call on MoveIt.
-/

namespace HakRobot.Handeye

open HakRobot.Geometry HakRobot.Proc

/-! ## Poses and plans -/

/-- `geometry_msgs/PoseStamped`, without its header. -/
structure Pose where
  position : Vec3 ℚ
  orientation : Quat ℚ

/-- What the node reads of a `RobotTrajectory`: the positions of each point. -/
structure Plan where
  points : List (List ℚ)
deriving DecidableEq

inductive MoveError
  | attributeError
  | typeError
  | valueError
  | indexError
  | moveItError
deriving DecidableEq

/-- The parameters of `CalibrationMovements`. `radian` is the number of degrees of one
radian; the last two are the functions of `tf.transformations`. -/
structure Movements where
  angleDelta : ℚ
  translationDelta : ℚ
  activeJoints : Nat
  radian : ℚ
  quaternionFromEuler : ℚ → ℚ → ℚ → Quat ℚ
  quaternionMultiply : Quat ℚ → Quat ℚ → Quat ℚ

/-- `joint_limits`, which the constructor writes down twice. -/
def Movements.jointLimits (m : Movements) : List ℚ :=
  [90, 90, 90, 90, 90, 180, 350].map (· / m.radian)

/-- `fallback_joint_limits`. -/
def Movements.fallbackJointLimits (m : Movements) : List ℚ :=
  if m.activeJoints = 6 then m.jointLimits.drop 1 else m.jointLimits

/-- A turn about each axis, there and back: `pos_deltas` and `neg_deltas`, interleaved. -/
def Movements.quaternionDeltas (m : Movements) (a : ℚ) : List (Quat ℚ) :=
  [m.quaternionFromEuler a 0 0, m.quaternionFromEuler (-a) 0 0,
    m.quaternionFromEuler 0 a 0, m.quaternionFromEuler 0 (-a) 0,
    m.quaternionFromEuler 0 0 a, m.quaternionFromEuler 0 0 (-a)]

/-- `final_rots`. -/
def Movements.finalRots (m : Movements) : List (Quat ℚ) :=
  m.quaternionDeltas m.angleDelta ++ m.quaternionDeltas (m.angleDelta / 2)

/-- The steps of `_compute_poses_around_state`. -/
def Movements.finalSteps (m : Movements) : List (Vec3 ℚ) :=
  [⟨m.translationDelta / 2, 0, 0⟩, ⟨-(m.translationDelta / 2), 0, 0⟩,
    ⟨0, m.translationDelta, 0⟩, ⟨0, -m.translationDelta, 0⟩,
    ⟨0, 0, m.translationDelta / 3⟩]

/-- `_compute_poses_around_state`. -/
def Movements.posesAroundState (m : Movements) (start : Pose) : List Pose :=
  m.finalRots.map (fun rot =>
      { start with orientation := m.quaternionMultiply start.orientation rot }) ++
    m.finalSteps.map (fun step => { start with position := start.position + step })

/-! ## Crazy plans -/

/-- The largest and the smallest entry of each column, row by row. -/
def columns (pick : ℚ → ℚ → ℚ) (row : List ℚ) (rows : List (List ℚ)) : List ℚ :=
  rows.foldl (List.zipWith pick) row

/-- `_rot_per_joint`. -/
def rotPerJoint (plan : Plan) : Except MoveError (List ℚ) :=
  match plan.points with
  | [] => .error .valueError
  | row :: rows =>
      -- the points have one width, or they make no array
      if ∀ r ∈ rows, r.length = row.length then
        .ok (List.zipWith (fun hi lo => |hi - lo|) (columns max row rows) (columns min row rows))
      else .error .valueError

/-- `abs_rot_per_joint > max_rotation_per_joint`, for arrays of one width or an array of
one entry. -/
def exceeds (rots limits : List ℚ) : Except MoveError (List Bool) :=
  if rots.length = limits.length then .ok (List.zipWith (fun r l => decide (r > l)) rots limits)
  else match rots, limits with
    | [r], _ => .ok (limits.map fun l => decide (r > l))
    | _, [l] => .ok (rots.map fun r => decide (r > l))
    | _, _ => .error .valueError

/-- `_is_crazy_plan`. -/
def isCrazyPlan (plan : Plan) (maxRotationPerJoint : List ℚ) : Except MoveError Bool := do
  let rots ← rotPerJoint plan
  return (← exceeds rots maxRotationPerJoint).any id

/-! ## Operations -/

/-- The attributes; `plan` does not exist before the first plan was made. -/
inductive MoveOp
  | startPose
  | setStartPose (p : Option Pose)
  | targetPoses
  | setTargetPoses (ps : Option (List Pose))
  | currentPoseIndex
  | setCurrentPoseIndex (i : ℤ)
  | plan
  | setPlan (p : Option Plan)
  /-- `mgc.get_current_pose()`. -/
  | getCurrentPose
  | setStartState
  | setPoseTarget (p : Option Pose)
  /-- `mgc.plan()`. -/
  | makePlan
  | execute (p : Option Plan)

abbrev MoveOp.Res : MoveOp → Type
  | .startPose => Option Pose
  | .targetPoses => Option (List Pose)
  | .currentPoseIndex => Option ℤ
  | .plan => Except MoveError (Option Plan)
  | .getCurrentPose => Except MoveError Pose
  | .makePlan => Except MoveError Plan
  | .setStartState | .setPoseTarget _ | .execute _ => Except MoveError Unit
  | .setStartPose _ | .setTargetPoses _ | .setCurrentPoseIndex _ | .setPlan _ => Unit

abbrev moveSig : Sig := ⟨MoveOp, MoveOp.Res⟩

/-- A method of `CalibrationMovements`. -/
abbrev Moving := Prog moveSig MoveError

/-- One operation that cannot raise. -/
def does (o : MoveOp) : Moving o.Res := Prog.perform (σ := moveSig) o

/-- `self.plan`. -/
def plan : Moving (Option Plan) := (does .plan).bind .ofExcept

/-- `self.mgc.get_current_pose()`. -/
def getCurrentPose : Moving Pose := (does .getCurrentPose).bind .ofExcept

/-- `self.mgc.set_pose_target(p)`. -/
def setPoseTarget (p : Option Pose) : Moving Unit := (does (.setPoseTarget p)).bind .ofExcept

/-- `self.mgc.plan()`. -/
def makePlan : Moving Plan := (does .makePlan).bind .ofExcept

/-! ## `CalibrationMovements` -/

variable (m : Movements)

/-- The loop of `_check_target_poses`. -/
def checkPoses (limits : List ℚ) : List Pose → Moving Bool
  | [] => return true
  | fp :: rest => do
      setPoseTarget (some fp)
      let plan ← makePlan
      if plan.points.length = 0 then
        return false
      else
        let crazy ← Prog.ofExcept (isCrazyPlan plan limits)
        if crazy then
          return false
        else
          checkPoses limits rest

/-- `_check_target_poses`. -/
def checkTargetPoses : Moving Bool := do
  match ← does .targetPoses with
  | none => .raise .typeError
  | some poses =>
      checkPoses (if m.fallbackJointLimits.length = 6 then m.jointLimits.drop 1 else m.jointLimits)
        poses

/-- `set_and_check_starting_position`. -/
def setAndCheckStartingPosition : Moving Bool := do
  let pose ← getCurrentPose
  does (.setStartPose (some pose))
  match ← does .startPose with
  | none => .raise .attributeError
  | some start =>
      does (.setTargetPoses (some (m.posesAroundState start)))
      does (.setCurrentPoseIndex (-1))
      let ret ← checkTargetPoses m
      if ret then
        return true
      else
        does (.setStartPose none)
        does (.setTargetPoses none)
        return false

/-- `select_target_pose`. -/
def selectTargetPose (i : ℤ) : Moving Bool := do
  match ← does .targetPoses with
  | none => .raise .typeError
  | some poses =>
      if 0 ≤ i ∧ i < poses.length then
        does (.setCurrentPoseIndex i)
        return true
      else
        return false

/-- `_plan_to_pose`. -/
def planToPose (pose : Option Pose) : Moving Bool := do
  (does .setStartState).bind .ofExcept
  setPoseTarget pose
  let plan ← makePlan
  let crazy ← Prog.ofExcept (isCrazyPlan plan m.fallbackJointLimits)
  if crazy then
    does (.setPlan none)
    return false
  else
    does (.setPlan (some plan))
    return true

/-- `l[i]` in Python: a negative index counts from the end. -/
def item {α : Type} (l : List α) (i : ℤ) : Option α :=
  if 0 ≤ i then l[i.toNat]? else if -i ≤ l.length then l[(l.length + i).toNat]? else none

/-- `_plan_to_pose(poses[i])`. -/
def planToItem (poses : List Pose) (i : ℤ) : Moving Bool :=
  match item poses i with
  | none => .raise .indexError
  | some pose => planToPose m (some pose)

/-- `plan_to_current_target_pose`. -/
def planToCurrentTargetPose : Moving Bool := do
  let i ← does .currentPoseIndex
  match ← does .targetPoses, i with
  | some poses, some i => planToItem m poses i
  | _, _ => .raise .typeError

/-- `execute_plan`. It reads `self.plan` three times. -/
def executePlan : Moving Bool := do
  match ← plan with
  | none => return false
  | some _ =>
      match ← plan with
      | none => .raise .attributeError
      | some p =>
          let crazy ← Prog.ofExcept (isCrazyPlan p m.fallbackJointLimits)
          if crazy then
            return false
          else
            let p ← plan
            (does (.execute p)).bind .ofExcept
            return true

/-! ## `HandeyeServerRobot` -/

/-- `TargetPoseList`; a field that is `None` gets its default. -/
structure TargetPoseList where
  homePose : Option Pose
  targetPoses : List Pose
  currentTargetPoseIndex : ℤ

/-- The message about the attributes. -/
def targetPoseList : Moving TargetPoseList := do
  let start ← does .startPose
  let poses ← does .targetPoses
  let i ← does .currentPoseIndex
  return ⟨start, poses.getD [], i.getD 0⟩

inductive Request
  | checkStartingPosition
  | enumerateTargetPoses
  | selectTargetPose (i : ℤ)
  | planToSelectedTargetPose
  | executePlan

/-- The callback of a service. -/
def Request.serve : Request → Moving (Bool × Option TargetPoseList)
  | .checkStartingPosition => do
      let canCalibrate ← setAndCheckStartingPosition m
      return (canCalibrate, some (← targetPoseList))
  | .enumerateTargetPoses => return (true, some (← targetPoseList))
  | .selectTargetPose i => do
      let success ← Handeye.selectTargetPose i
      return (success, some (← targetPoseList))
  | .planToSelectedTargetPose => return (← planToCurrentTargetPose m, none)
  | .executePlan => return (← Handeye.executePlan m, none)

/-! ## The node -/

/-- The attributes, and the pose target of the move group. -/
structure MoveState where
  startPose : Option Pose
  targetPoses : Option (List Pose)
  currentPoseIndex : Option ℤ
  plan : Option (Option Plan)
  poseTarget : Option Pose

/-- What the outside world decides; `none` is an exception. -/
abbrev MoveOp.Choice : MoveOp → Type
  | .getCurrentPose => Option Pose
  | .makePlan => Option Plan
  | .setStartState | .setPoseTarget _ | .execute _ => Option Unit
  | .startPose | .targetPoses | .currentPoseIndex | .plan
  | .setStartPose _ | .setTargetPoses _ | .setCurrentPoseIndex _ | .setPlan _ => Unit

/-- The result of a call on MoveIt. -/
def called {α : Type} : Option α → Except MoveError α
  | none => .error .moveItError
  | some a => .ok a

/-- A target or a plan that is `None` cannot be converted to a message. -/
def mover : Machine moveSig MoveState where
  Choice := MoveOp.Choice
  exec
    | .startPose, _, s => (s.startPose, s)
    | .setStartPose p, _, s => ((), { s with startPose := p })
    | .targetPoses, _, s => (s.targetPoses, s)
    | .setTargetPoses ps, _, s => ((), { s with targetPoses := ps })
    | .currentPoseIndex, _, s => (s.currentPoseIndex, s)
    | .setCurrentPoseIndex i, _, s => ((), { s with currentPoseIndex := some i })
    | .plan, _, s =>
        (match s.plan with
          | none => .error .attributeError
          | some p => .ok p, s)
    | .setPlan p, _, s => ((), { s with plan := some p })
    | .getCurrentPose, pose, s => (called pose, s)
    | .setStartState, x, s => (called x, s)
    | .setPoseTarget none, _, s => (.error .typeError, s)
    | .setPoseTarget (some p), x, s =>
        (called x, if (x : Option Unit).isSome then { s with poseTarget := some p } else s)
    | .makePlan, plan, s => (called plan, s)
    | .execute none, _, s => (.error .attributeError, s)
    | .execute (some _), x, s => (called x, s)

/-- After `__init__`, which measures the start pose. -/
def MoveState.init (start : Pose) : MoveState := ⟨some start, some [], none, none, none⟩

end HakRobot.Handeye
