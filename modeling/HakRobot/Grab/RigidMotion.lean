import HakRobot.Geometry.Motion
import HakRobot.Grab.ToolOffset

/-!
# From the camera to the base, and from the tool to the flange

The two matrices of `vision_grab_moveit.py` over any ordered field, for any
quaternion of length one. The quaternion in the script is rounded to sixteen
digits, so it has this length only nearly.

* `cameraToBase_rigid` — the matrix turns as its quaternion does, it is
  orthogonal with determinant 1, `convert_camera_to_base` is a rigid motion, and
  the flange is at `TOOL_OFFSET_Z` from the tool.
-/

namespace HakRobot.Grab

open HakRobot.Geometry HakRobot.Proc

section Frames

variable {K : Type} [Field K]

/-- `convert_camera_to_base` with the matrix of any quaternion and any
`translation_vector`. -/
def cameraToBase (q : Quat K) (translation p : Vec3 K) : Vec3 K := q.matrix.apply p + translation

/-- The script has its own quaternion and translation. -/
theorem convertCameraToBase_eq (x y z : ℚ) :
    convertCameraToBase x y z = cameraToBase cameraOrientation translationVector ⟨x, y, z⟩ := rfl

/-- `tool_offset_base`, for the reported orientation `q`. -/
def toolOffsetBase (q : Quat K) : Vec3 K := q.matrix.apply (castVec toolOffset)

theorem sub_flangeFor (q : Quat K) (target : Vec3 K) :
    target - flangeFor q target = toolOffsetBase q := by
  apply Vec3.ext <;> simp [flangeFor, toolOffsetBase]

variable [LinearOrder K] [IsStrictOrderedRing K]

theorem castVec_toolOffset_isLength : (castVec toolOffset : Vec3 K).IsLength TOOL_OFFSET_Z := by
  have hpos : 0 ≤ TOOL_OFFSET_Z := by norm_num [TOOL_OFFSET_Z]
  refine ⟨Rat.cast_nonneg.mpr hpos, ?_⟩
  simp [castVec, toolOffset, Vec3.dot]

/-- A turn does not change the length of the offset. -/
theorem toolOffsetBase_isLength {q : Quat K} (hq : q.Unit) :
    (toolOffsetBase q).IsLength TOOL_OFFSET_Z := by
  have horth := (Matrix.mem_specialOrthogonalGroup_iff.mp
    (Quat.matrix_mem_specialOrthogonalGroup hq)).1
  exact castVec_toolOffset_isLength.congr (Mat3.dot_apply horth _ _)

end Frames

/-- `tcp_to_flange` ends at the flange for its report, `TOOL_OFFSET_Z` away from its
target. -/
theorem tcpToFlange_isLength (pose : Pose) (x y z : ℚ) (s : VisionState) :
    vision.Ends (Reports pose) (tcpToFlange x y z)
      (fun flange _ => flange = flangeFor pose.orientation ⟨x, y, z⟩ ∧
        (pose.orientation.Unit → (⟨x, y, z⟩ - flange : Vec3 ℚ).IsLength TOOL_OFFSET_Z))
      (fun _ _ => False) s := by
  refine Machine.wp_mono ?_ (fun _ _ he => he) (tcpToFlange_ends pose x y z s)
  intro flange _ hflange
  refine ⟨hflange, fun hq => ?_⟩
  rw [hflange, sub_flangeFor]
  exact toolOffsetBase_isLength hq

/-- **Rigid motion.** `convert_camera_to_base` and `tcp_to_flange` use the matrix of a
quaternion. For every quaternion of length one, over every ordered field, this matrix
turns a vector as the quaternion does and is orthogonal with determinant 1, the
conversion with any translation is rigid, and the tool is at exactly `TOOL_OFFSET_Z` from
the flange. -/
theorem cameraToBase_rigid {K : Type} [Field K] [LinearOrder K] [IsStrictOrderedRing K]
    {q : Quat K} (hq : q.Unit) :
    (∀ v : Vec3 K, (q.matrix.apply v).toQuaternion =
      q.toQuaternion * v.toQuaternion * star q.toQuaternion) ∧
    q.matrix.toMatrix ∈ Matrix.specialOrthogonalGroup (Fin 3) K ∧
    (∀ translation : Vec3 K, IsRigid (cameraToBase q translation)) ∧
    (∀ (target : Vec3 K) (ℓ : K),
      (target - flangeFor q target).IsLength ℓ ↔ ℓ = TOOL_OFFSET_Z) ∧
    -- the two functions of the script
    (∀ x y z : ℚ,
      convertCameraToBase x y z = cameraToBase cameraOrientation translationVector ⟨x, y, z⟩) ∧
    ∀ (pose : Pose) (x y z : ℚ) (s : VisionState),
      vision.Ends (Reports pose) (tcpToFlange x y z)
        (fun flange _ => flange = flangeFor pose.orientation ⟨x, y, z⟩ ∧
          (pose.orientation.Unit → (⟨x, y, z⟩ - flange : Vec3 ℚ).IsLength TOOL_OFFSET_Z))
        (fun _ _ => False) s := by
  refine ⟨Quat.toQuaternion_apply hq, Quat.matrix_mem_specialOrthogonalGroup hq, ?_, ?_,
    convertCameraToBase_eq, tcpToFlange_isLength⟩
  · intro translation
    exact Quat.isRigid_apply_add hq translation
  · intro target ℓ
    rw [sub_flangeFor]
    exact (toolOffsetBase_isLength hq).iff_eq

/-- `cameraToBase_rigid` for a turn about the vertical. -/
theorem cameraToBase_rigid_vertical :
    (⟨0, 0, 3 / 5, 4 / 5⟩ : Quat ℚ).Unit ∧
      IsRigid (cameraToBase ⟨0, 0, 3 / 5, 4 / 5⟩ translationVector) ∧
      (⟨0.4, 0, 0.1⟩ - flangeFor ⟨0, 0, 3 / 5, 4 / 5⟩ ⟨0.4, 0, 0.1⟩ : Vec3 ℚ).IsLength
        TOOL_OFFSET_Z := by
  have hq : (⟨0, 0, 3 / 5, 4 / 5⟩ : Quat ℚ).Unit := by
    norm_num [Quat.Unit]
  obtain ⟨-, -, hrigid, hlength, -⟩ := cameraToBase_rigid hq
  exact ⟨hq, hrigid translationVector, (hlength _ _).mpr (Rat.cast_id _).symm⟩

end HakRobot.Grab
