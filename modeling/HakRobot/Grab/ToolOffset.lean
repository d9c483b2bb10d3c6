import HakRobot.Geometry.Quaternion
import HakRobot.Grab.OneTask
import Mathlib.Data.Rat.Cast.CharZero
import Mathlib.Data.Rat.Cast.Order

/-!
# Where the flange is sent

`tcp_to_flange` puts the tool on the z axis of the reported flange, and
`move_to_pose_joint_space` commands that position together with the orientation
of a second report. For any reports:

* `tcpToFlange_turned_iff`: the flange position is the same for every wrist
  angle only when the wrist is not turned at all. The robot description has the
  tool, and the axis of the last joint, along x;
* `commanded_onTarget_iff`: the commanded pose puts the tool on the target
  exactly when the second report is the first, turned about the tool's z axis.
-/

namespace HakRobot.Grab

open HakRobot.Geometry HakRobot.Proc

/-! ## The robot description -/

/-- `axis` of the joint `j_hkrobot`, in its child link `hkrobot`. -/
def jHkrobotAxis : Vec3 ℚ := ⟨-1, 0, 0⟩

/-- `origin` of `joint_tool0`: the frame `tool0` in the link `hkrobot`. -/
def jointTool0Origin : Vec3 ℚ := ⟨0.20, 0, 0⟩

section Flange

variable {K : Type} [Field K]

/-- A vector of the source, over any field. -/
def castVec (v : Vec3 ℚ) : Vec3 K := ⟨v.x, v.y, v.z⟩

/-- `np.array([0.0, 0.0, TOOL_OFFSET_Z])`. -/
def toolOffset : Vec3 ℚ := ⟨0, 0, TOOL_OFFSET_Z⟩

/-- The turn of the last joint for half the angle of sine `t` and cosine `c`. -/
def wristTurn (t c : K) : Quat K := .about (castVec jHkrobotAxis) t c

/-- What `tcp_to_flange` computes for the reported orientation `q`. -/
def flangeFor (q : Quat K) (target : Vec3 K) : Vec3 K :=
  target - q.matrix.apply (castVec toolOffset)

end Flange

@[simp] theorem castVec_rat (v : Vec3 ℚ) : (castVec v : Vec3 ℚ) = v := by
  simp [castVec]

theorem TOOL_OFFSET_Z_ne_zero : TOOL_OFFSET_Z ≠ 0 := by
  norm_num [TOOL_OFFSET_Z]

theorem tcpToFlange_eq (x y z : ℚ) :
    tcpToFlange x y z =
      getCurrentPose.bind fun p => .ret (flangeFor p.orientation ⟨x, y, z⟩) := by
  simp only [flangeFor, castVec_rat]
  rfl

/-! ## The wrist -/

section Wrist

variable {K : Type} [Field K] [LinearOrder K] [IsStrictOrderedRing K]

/-- The last joint turns the flange about the tool point. -/
theorem wristTurn_tool0 (t c : K) :
    (wristTurn t c).matrix.apply (castVec jointTool0Origin) = castVec jointTool0Origin := by
  apply Quat.about_apply_eq_self_iff.mpr
  right
  simp [castVec, jHkrobotAxis, jointTool0Origin, Vec3.cross, Vec3.ext_iff]

/-- It does not turn it about the point that `tcp_to_flange` assumes. -/
theorem wristTurn_toolOffset_iff {t c : K} :
    (wristTurn t c).matrix.apply (castVec toolOffset) = castVec toolOffset ↔ t = 0 := by
  have hcross : (castVec jHkrobotAxis : Vec3 K).cross (castVec toolOffset) ≠ 0 := by
    intro h
    have hy := congrArg (·.y) h
    simp [castVec, jHkrobotAxis, toolOffset, Vec3.cross] at hy
    exact absurd hy TOOL_OFFSET_Z_ne_zero
  rw [wristTurn, Quat.about_apply_eq_self_iff, or_iff_left hcross]

theorem flangeFor_turned_iff {q : Quat K} {t c : K} (hq : q.Unit) (hr : (wristTurn t c).Unit)
    (target : Vec3 K) :
    flangeFor q target = flangeFor (q * wristTurn t c) target ↔ t = 0 := by
  rw [flangeFor, flangeFor, Vec3.sub_eq_sub_iff, Quat.matrix_mul_apply hq hr, eq_comm,
    (Quat.apply_injective hq).eq_iff, wristTurn_toolOffset_iff]

end Wrist

/-- `get_current_pose` returns `pose`. -/
def Reports (pose : Pose) : vision.Rely
  | _, .getCurrentPose, reported => reported = some pose
  | _, _, _ => True

theorem tcpToFlange_steps (pose : Pose) (x y z : ℚ) (s : VisionState) :
    vision.Steps (Reports pose) (tcpToFlange x y z, s)
      (.ret (flangeFor pose.orientation ⟨x, y, z⟩), s) := by
  rw [tcpToFlange_eq]
  exact Machine.Step.head (M := vision) (o := VisionOp.getCurrentPose) (some pose) rfl .refl

theorem tcpToFlange_ends (pose : Pose) (x y z : ℚ) (s : VisionState) :
    vision.Ends (Reports pose) (tcpToFlange x y z)
      (fun flange _ => flange = flangeFor pose.orientation ⟨x, y, z⟩) (fun _ _ => False) s := by
  rw [tcpToFlange_eq]
  refine ⟨trivial, ?_⟩
  intro reported hreported
  obtain rfl : reported = some pose := hreported
  rfl

/-- **Tool offset.** `tcp_to_flange` returns `flangeFor` of the reported orientation, and
this position stays where it is when the last joint turns, over every ordered field and
for every target, exactly when it turns by whole turns. -/
theorem tcpToFlange_turned_iff {K : Type} [Field K] [LinearOrder K] [IsStrictOrderedRing K]
    {q : Quat K} {t c : K} (hq : q.Unit) (hr : (wristTurn t c).Unit) (target : Vec3 K) :
    (∀ (pose : Pose) (x y z : ℚ) (s : VisionState),
      vision.Ends (Reports pose) (tcpToFlange x y z)
        (fun flange _ => flange = flangeFor pose.orientation ⟨x, y, z⟩) (fun _ _ => False) s) ∧
    (flangeFor q target = flangeFor (q * wristTurn t c) target ↔ t = 0) := by
  constructor
  · exact tcpToFlange_ends
  · exact flangeFor_turned_iff hq hr target

/-- `tcpToFlange_turned_iff` for a wrist that did turn. -/
theorem tcpToFlange_turned_wrist :
    (⟨0, 0, 0, 1⟩ : Quat ℚ).Unit ∧ (wristTurn (3 / 5) (4 / 5) : Quat ℚ).Unit ∧
      flangeFor ⟨0, 0, 0, 1⟩ ⟨0.4, 0, 0.1⟩ ≠
        flangeFor (⟨0, 0, 0, 1⟩ * wristTurn (3 / 5) (4 / 5)) (⟨0.4, 0, 0.1⟩ : Vec3 ℚ) := by
  have hq : (⟨0, 0, 0, 1⟩ : Quat ℚ).Unit := by
    decide +kernel
  have hr : (wristTurn (3 / 5) (4 / 5) : Quat ℚ).Unit := by
    decide +kernel
  refine ⟨hq, hr, ?_⟩
  rw [Ne, (tcpToFlange_turned_iff hq hr _).2]
  norm_num

/-- The flange points up, then down: the wrist made half a turn, the tool did
not move, and the flange is sent 54 cm away. -/
theorem tcpToFlange_halfTurn :
    let q : Quat ℚ := ⟨0, 0, 0, 1⟩
    let r : Quat ℚ := wristTurn 1 0
    let s : VisionState := .init fun _ => 0
    q.Unit ∧ r.Unit ∧ r.matrix.apply jointTool0Origin = jointTool0Origin ∧
      vision.Steps (Reports ⟨⟨0, 0, 0⟩, q⟩) (tcpToFlange 0 0 0, s) (.ret ⟨0, 0, -0.27⟩, s) ∧
      vision.Steps (Reports ⟨⟨0, 0, 0⟩, q * r⟩) (tcpToFlange 0 0 0, s)
        (.ret ⟨0, 0, 0.27⟩, s) := by
  intro q r s
  refine ⟨by decide +kernel, by decide +kernel, by decide +kernel, ?_, ?_⟩
  · have hflange : flangeFor q ⟨0, 0, 0⟩ = ⟨0, 0, -0.27⟩ := by decide +kernel
    exact hflange ▸ tcpToFlange_steps ⟨⟨0, 0, 0⟩, q⟩ 0 0 0 s
  · have hflange : flangeFor (q * r) ⟨0, 0, 0⟩ = ⟨0, 0, 0.27⟩ := by decide +kernel
    exact hflange ▸ tcpToFlange_steps ⟨⟨0, 0, 0⟩, q * r⟩ 0 0 0 s

/-! ## The commanded pose -/

/-- What `get_current_pose` has returned, newest first. -/
def noteReport (reports : List Pose) : (o : VisionOp) → o.Res → List Pose
  | .getCurrentPose, .ok pose => pose :: reports
  | _, _ => reports

/-- A function of the node against reports that may be anything. -/
abbrev reported : Machine visionSig (List Pose) := .monitor visionSig noteReport

/-- The target pose is the flange for the report before last, with the
orientation of the last one. -/
def SetsFlange (x y z : ℚ) (reports : List Pose) (o : VisionOp) : Prop :=
  ∀ pose, o = .setPoseTarget pose →
    ∃ first second, reports = [second, first] ∧
      pose = ⟨flangeFor first.orientation ⟨x, y, z⟩, second.orientation⟩

/-- The operation sets no target pose. -/
def SetsNoPose (o : VisionOp) : Prop := ∀ pose, o ≠ .setPoseTarget pose

theorem getCurrentPose_reported (x y z : ℚ) (reports : List Pose) :
    reported.wp (Machine.anyChoice _) (SetsFlange x y z) getCurrentPose
      (fun pose reports' => reports' = pose :: reports) (fun _ _ => True) reports := by
  refine ⟨nofun, ?_⟩
  intro result _
  cases result with
  | ok pose => exact rfl
  | error e => exact trivial

/-- After the target is set, no other is. -/
theorem afterTarget_setsNoPose :
    (do let result ← plan
        clearPoseTargets
        if result.success then publishToHkDriver result.plan else return false :
      Routine Bool).Uses SetsNoPose := by
  have hpublishes : ∀ o : VisionOp, o.Publishes → SetsNoPose o := by
    intro o ho pose h
    rw [h] at ho
    exact ho
  refine Prog.uses_bind ⟨nofun, fun r => Prog.uses_ofExcept r⟩ fun result => ?_
  refine Prog.uses_bind ⟨nofun, fun r => Prog.uses_ofExcept r⟩ fun _ => ?_
  exact (usePlan_publishes result).mono hpublishes

theorem tcpToFlange_reported (x y z : ℚ) (reports : List Pose) :
    reported.wp (Machine.anyChoice _) (SetsFlange x y z) (tcpToFlange x y z)
      (fun flange reports' => ∃ pose, reports' = pose :: reports ∧
        flange = flangeFor pose.orientation ⟨x, y, z⟩) (fun _ _ => True) reports := by
  rw [tcpToFlange_eq]
  refine Machine.wp_seq (getCurrentPose_reported x y z reports) ?_ fun _ _ h => h
  exact fun pose _ h => ⟨pose, h, rfl⟩

theorem planToPose_setsFlange (x y z : ℚ) :
    reported.wp (Machine.anyChoice _) (SetsFlange x y z) (planToPose x y z)
      (fun _ _ => True) (fun _ _ => True) [] := by
  refine Machine.wp_seq (tcpToFlange_reported x y z []) ?_ fun _ _ h => h
  intro flange reports₁ h₁
  obtain ⟨first, rfl, rfl⟩ := h₁
  refine Machine.wp_seq (getCurrentPose_reported x y z [first]) ?_ fun _ _ h => h
  intro second reports₂ h₂
  rw [h₂]
  refine ⟨nofun, ?_⟩
  intro started _
  cases started with
  | error e => exact trivial
  | ok _ =>
      refine ⟨?_, ?_⟩
      · intro pose hpose
        obtain rfl := VisionOp.setPoseTarget.inj hpose
        exact ⟨first, second, rfl, rfl⟩
      · intro targeted _
        cases targeted with
        | error e => exact trivial
        | ok _ =>
            refine Machine.wp_of_uses (I := fun _ => True) ?_ afterTarget_setsNoPose trivial
            intro reports o _ ho
            exact ⟨fun pose h => absurd h (ho pose), fun _ _ => trivial⟩

theorem moveToPoseJointSpace_setsFlange (x y z : ℚ) :
    reported.wp (Machine.anyChoice _) (SetsFlange x y z) (moveToPoseJointSpace x y z)
      (fun _ _ => True) (fun _ _ => True) [] := by
  have hstart : reported.wp (Machine.anyChoice _) (SetsFlange x y z)
      (mark (.motionRequested (.pose x y z))) (fun _ reports => reports = []) (fun _ _ => True)
      [] :=
    ⟨nofun, fun _ _ => rfl⟩
  refine Machine.wp_seq hstart ?_ fun _ _ h => h
  intro _ reports h
  rw [h]
  exact Machine.wp_seq (planToPose_setsFlange x y z)
    (fun _ _ _ => ⟨nofun, fun _ _ => trivial⟩) fun _ _ h => h

/-- What is left of the body of a motion that is about to set its target. -/
def planToTarget (targetPose : Pose) : Routine Bool := do
  setPoseTarget targetPose
  let result ← plan
  clearPoseTargets
  if result.success then publishToHkDriver result.plan else return false

/-- And of the motion. -/
def moveToTarget (m : ArmMotion) (targetPose : Pose) : Routine Bool :=
  (planToTarget targetPose).bind fun b => (mark (.motionReturned m b)).bind fun _ => .ret b

/-- Any two reports can be the two that a motion reads. -/
theorem moveToPoseJointSpace_commands (x y z : ℚ) (first second : Pose) :
    reported.Steps (Machine.anyChoice _) (moveToPoseJointSpace x y z, [])
      (moveToTarget (.pose x y z) ⟨flangeFor first.orientation ⟨x, y, z⟩, second.orientation⟩,
        [second, first]) := by
  unfold moveToPoseJointSpace motion planToPose
  rw [tcpToFlange_eq]
  refine Machine.Step.head (M := reported) (o := VisionOp.mark _) () trivial ?_
  refine Machine.Step.head (M := reported) (o := VisionOp.getCurrentPose) (.ok first) trivial ?_
  refine Machine.Step.head (M := reported) (o := VisionOp.getCurrentPose) (.ok second) trivial ?_
  refine Machine.Step.head (M := reported) (o := VisionOp.setStartStateToCurrentState) (.ok ())
    trivial ?_
  exact Relation.ReflTransGen.refl

/-- The tool is where it was asked to be. -/
def OnTarget (pose : Pose) (target : Vec3 ℚ) : Prop :=
  pose.position + pose.orientation.matrix.apply toolOffset = target

instance (pose : Pose) (target : Vec3 ℚ) : Decidable (OnTarget pose target) :=
  inferInstanceAs (Decidable (_ = _))

theorem onTarget_iff {first second : Quat ℚ} (hfirst : first.Unit) (hsecond : second.Unit)
    (target : Vec3 ℚ) :
    OnTarget ⟨flangeFor first target, second⟩ target ↔
      (first.conj * second).x = 0 ∧ (first.conj * second).y = 0 := by
  rw [OnTarget, flangeFor, castVec_rat, Vec3.sub_add_eq_iff, Quat.apply_eq_iff hfirst hsecond]
  simp [Quat.axis, Vec3.cross, toolOffset, Vec3.ext_iff, TOOL_OFFSET_Z_ne_zero, and_comm]

/-- **Two reports.** Whenever `move_to_pose_joint_space` is about to command a pose it has
read two, and the commanded pose puts the tool on the target exactly when the second
orientation is the first one turned about the tool's own z axis. -/
theorem commanded_onTarget_iff (x y z : ℚ) {p : Routine Bool} {reports : List Pose} {pose : Pose}
    (hrun : reported.Steps (Machine.anyChoice _) (moveToPoseJointSpace x y z, []) (p, reports))
    (hnext : p.next = some (.setPoseTarget pose)) :
    ∃ first second, reports = [second, first] ∧
      (first.orientation.Unit → second.orientation.Unit →
        (OnTarget pose ⟨x, y, z⟩ ↔
          (first.orientation.conj * second.orientation).x = 0 ∧
            (first.orientation.conj * second.orientation).y = 0)) := by
  have hnow := Machine.wp_steps (c := (moveToPoseJointSpace x y z, []))
    (moveToPoseJointSpace_setsFlange x y z) hrun
  obtain ⟨first, second, hreports, rfl⟩ := Machine.wp_next hnow hnext pose rfl
  refine ⟨first, second, hreports, ?_⟩
  intro hfirst hsecond
  exact onTarget_iff hfirst hsecond _

/-- Between the two reports the wrist turned about the tool axis. -/
theorem commanded_onTarget_spin :
    OnTarget ⟨flangeFor ⟨0, 0, 0, 1⟩ ⟨0.4, 0, 0.1⟩, ⟨0, 0, 0.6, 0.8⟩⟩ ⟨0.4, 0, 0.1⟩ := by
  have hrun := moveToPoseJointSpace_commands 0.4 0 0.1
    ⟨⟨0, 0, 0⟩, ⟨0, 0, 0, 1⟩⟩ ⟨⟨0, 0, 0⟩, ⟨0, 0, 0.6, 0.8⟩⟩
  obtain ⟨first, second, hreports, h⟩ := commanded_onTarget_iff _ _ _ hrun rfl
  obtain ⟨rfl, rfl⟩ :
      ⟨⟨0, 0, 0⟩, ⟨0, 0, 0.6, 0.8⟩⟩ = second ∧ ⟨⟨0, 0, 0⟩, ⟨0, 0, 0, 1⟩⟩ = first := by
    simpa using hreports
  exact (h (by decide +kernel) (by decide +kernel)).mpr (by decide +kernel)

/-- Between the two reports the wrist made half a turn: with the commanded pose
the tool ends 54 cm below its target. -/
theorem commanded_offTarget :
    ∃ (first second commanded : Pose) (p : Routine Bool),
      first.orientation.Unit ∧ second.orientation.Unit ∧
      reported.Steps (Machine.anyChoice _) (moveToPoseJointSpace 0 0 0, []) (p, [second, first]) ∧
      p.next = some (.setPoseTarget commanded) ∧
      ¬ OnTarget commanded ⟨0, 0, 0⟩ ∧ OnTarget commanded ⟨0, 0, -0.54⟩ := by
  have hrun := moveToPoseJointSpace_commands 0 0 0
    ⟨⟨0, 0, 0⟩, ⟨0, 0, 0, 1⟩⟩ ⟨⟨0, 0, 0⟩, ⟨1, 0, 0, 0⟩⟩
  exact ⟨_, _, _, _, by decide +kernel, by decide +kernel, hrun, rfl, by decide +kernel,
    by decide +kernel⟩

end HakRobot.Grab
