import HakRobot.Geometry.Rotation
import Mathlib.Algebra.Order.Archimedean.Basic
import Mathlib.Algebra.Order.Floor.Ring
import Mathlib.Data.Rat.Floor
import Mathlib.Tactic.FieldSimp
import Mathlib.Tactic.Linarith
import Mathlib.Tactic.NormNum

/-!
# The two camera models

`vi_catch_yolov8.py` turns the centre of a box into a point with intrinsics of
its own; `hikrobot_camera.cpp` publishes its own pinhole matrix with every image.
The two do not describe the same camera: seen through the published matrix, every
detected point lies well below its box (`reprojected_below`), so the models agree
on no box at all.
-/

namespace HakRobot.Detect

open HakRobot.Geometry

variable {K : Type} [Field K]

/-- The literal 2 of the halves. -/
local instance atLeastTwo_two : Nat.AtLeastTwo 2 := ⟨Nat.le_refl 2⟩

/-! ## The detector -/

/-- `FX`. -/
def FX : K := 4006.35522

/-- `FY`. -/
def FY : K := 4001.64525

/-- `CX`. -/
def CX : K := 1624.43955

/-- `CY`. -/
def CY : K := 944.95876

/-- `pixel_to_camera`. -/
def pixelToCamera (u v z : K) : Vec3 K := ⟨(u - CX) * z / FX, (v - CY) * z / FY, z⟩

/-- A detection box, `box.xyxy[0]`. -/
structure Box (K : Type) where
  x1 : K
  y1 : K
  x2 : K
  y2 : K

section Order

variable [LinearOrder K] [FloorRing K]

/-- `astype(int)` and `int(...)`: towards zero. -/
def truncate (q : K) : ℤ := if 0 ≤ q then ⌊q⌋ else ⌈q⌉

/-- `int((a + b) / 2)` of two corners cut to integers. -/
def centre (a b : K) : ℤ := truncate (((truncate a + truncate b : ℤ) : K) / 2)

/-- The point `process_image` publishes for a box, on the plane of depth `z`. -/
def detectedPoint (box : Box K) (z : K) : Vec3 K :=
  pixelToCamera (centre box.x1 box.x2 : K) (centre box.y1 box.y2 : K) z

end Order

/-! ## The camera node -/

/-- `camera_info_msg.K`. -/
def cameraMatrix : Mat3 K where
  x := ⟨4732.80839, 0, 1484.88015⟩
  y := ⟨0, 4728.1779, 1149.38858⟩
  z := ⟨0, 0, 1⟩

/-- The pixel of a point under a pinhole matrix. -/
def project (m : Mat3 K) (p : Vec3 K) : K × K :=
  ((m.apply p).x / (m.apply p).z, (m.apply p).y / (m.apply p).z)

/-! ## Comparison -/

variable [LinearOrder K]

/-- A box as the detector gets it. -/
structure Box.WellFormed (box : Box K) : Prop where
  x1 : 0 ≤ box.x1
  x12 : box.x1 ≤ box.x2
  y1 : 0 ≤ box.y1
  y12 : box.y1 ≤ box.y2

variable [FloorRing K]

/-- The published matrix sees the detected point within 1.5 pixels of the real
centre of the box. -/
def Agrees (box : Box K) (z : K) : Prop :=
  |(project cameraMatrix (detectedPoint box z)).1 - (box.x1 + box.x2) / 2| < 1.5 ∧
  |(project cameraMatrix (detectedPoint box z)).2 - (box.y1 + box.y2) / 2| < 1.5

theorem truncate_bounds {q : K} (hq : 0 ≤ q) :
    0 ≤ truncate q ∧ (truncate q : K) ≤ q ∧ q < truncate q + 1 := by
  rw [truncate, if_pos hq]
  exact ⟨Int.floor_nonneg.mpr hq, Int.floor_le q, Int.lt_floor_add_one q⟩

/-- The row of the detected point under the published matrix. -/
theorem project_detectedPoint {box : Box K} {z : K} (hz : 0 < z) :
    (project cameraMatrix (detectedPoint box z)).2 =
      4728.1779 / 4001.64525 * ((centre box.y1 box.y2 : K) - CY) + 1149.38858 := by
  have hz' : z ≠ 0 := ne_of_gt hz
  simp only [project, cameraMatrix, Mat3.apply, Vec3.dot, detectedPoint, pixelToCamera, FY]
  field_simp
  ring

variable [IsStrictOrderedRing K]

/-- Three truncations move the centre by less than 1.5, and only upwards in the
image. -/
theorem centre_bounds {a b : K} (ha : 0 ≤ a) (hb : 0 ≤ b) :
    0 ≤ (centre a b : K) ∧ (centre a b : K) ≤ (a + b) / 2 ∧ (a + b) / 2 < centre a b + 1.5 := by
  obtain ⟨ha₀, ha₁, ha₂⟩ := truncate_bounds ha
  obtain ⟨hb₀, hb₁, hb₂⟩ := truncate_bounds hb
  have hsum : (0 : K) ≤ ((truncate a + truncate b : ℤ) : K) / 2 := by
    have hnonneg : (0 : K) ≤ ((truncate a + truncate b : ℤ) : K) := by
      exact_mod_cast add_nonneg ha₀ hb₀
    linarith
  obtain ⟨hc₀, hc₁, hc₂⟩ := truncate_bounds hsum
  have hc₀' : (0 : K) ≤ (centre a b : K) := Int.cast_nonneg hc₀
  -- the halved sum of two integers is cut by a half at most
  have hhalf : truncate a + truncate b ≤ 2 * centre a b + 1 := by
    have hlt : truncate a + truncate b < 2 * (centre a b + 1) := by
      have hcast : ((truncate a + truncate b : ℤ) : K) < ((2 * (centre a b + 1) : ℤ) : K) := by
        push_cast at hc₂ ⊢
        unfold centre
        push_cast
        linarith
      exact_mod_cast hcast
    omega
  have hhalf' : ((truncate a : K) + truncate b) ≤ 2 * centre a b + 1 := by exact_mod_cast hhalf
  refine ⟨hc₀', ?_, ?_⟩
  · unfold centre
    push_cast at hc₁ ⊢
    linarith
  · norm_num
    linarith

/-- Every detected point appears at least 31 rows below the centre of its box. -/
theorem reprojected_below {box : Box K} (hbox : box.WellFormed) {z : K} (hz : 0 < z) :
    31 ≤ (project cameraMatrix (detectedPoint box z)).2 - (box.y1 + box.y2) / 2 := by
  obtain ⟨h₀, _, h₂⟩ := centre_bounds hbox.y1 (hbox.y1.trans hbox.y12)
  rw [project_detectedPoint hz, CY]
  norm_num at h₂ ⊢
  linarith

/-- **Camera models.** The detector and the camera node agree on no box and no
depth. -/
theorem cameraModels_disagree {box : Box K} (hbox : box.WellFormed) {z : K} (hz : 0 < z) :
    ¬ Agrees box z := by
  intro hpost
  rcases hpost with ⟨_, hv⟩
  have hbelow := reprojected_below hbox hz
  have hlt := (abs_lt.mp hv).2
  norm_num at hlt
  linarith

/-- A box in the upper left corner of the image. -/
def cornerBox : Box ℚ := ⟨0, 0, 100, 100⟩

theorem cornerBox_wellFormed : cornerBox.WellFormed := by
  constructor <;> decide +kernel

/-- `cameraModels_disagree` for the box in the corner, at the depth of the
table. -/
theorem cameraModels_disagree_corner : ¬ Agrees cornerBox 1.15 :=
  cameraModels_disagree cornerBox_wellFormed (by norm_num)

/-- So the models do not agree on every box. -/
theorem cameraModels_not_agree :
    ¬ ∀ (box : Box ℚ) (z : ℚ), box.WellFormed → 0 < z → Agrees box z := by
  intro hall
  have hagrees := hall cornerBox 1.15 cornerBox_wellFormed (by norm_num)
  revert hagrees
  unfold Agrees
  decide +kernel

end HakRobot.Detect
