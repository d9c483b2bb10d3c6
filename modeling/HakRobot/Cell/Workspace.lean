import HakRobot.Cell.Freshness
import HakRobot.Geometry.Quaternion
import HakRobot.Grab.Walk

/-!
# Where the arm can be sent

The detector knows no depth: it puts every box on the plane `Z_PLANE`. A box inside
the image then becomes a point of a small region in front of the arm, and the grasp
node asks for poses above that region only.

* `seen_of_inImage` — where a box inside the image comes out in the frame of the base;
* `requests_inWorkspace` — over both nodes and the topic between them: every target the
  tool is asked for lies in one box, every target of the flange in a larger one, and the
  test of the height never rejects a detection.
-/

namespace HakRobot.Cell

open HakRobot.Detect HakRobot.Geometry HakRobot.Grab HakRobot.Proc

/-! ## The region the camera sees -/

/-- A box inside the image, of the width in the camera's `camera_info_msg` and the
height of its default settings. -/
structure InImage (box : Box ℚ) : Prop where
  wellFormed : box.WellFormed
  x2 : box.x2 ≤ 3200
  y2 : box.y2 ≤ 2048

/-- The points of the base frame that boxes inside the image come out at. -/
structure Seen (p : Vec3 ℚ) : Prop where
  x : 0.51 ≤ p.x ∧ p.x ≤ 1.15
  y : -0.61 ≤ p.y ∧ p.y ≤ 0.35
  z : 0.14 ≤ p.z ∧ p.z ≤ 0.23

/-- What the grasp node makes of a detection. -/
def basePoint (data : ObjectInfo) : Vec3 ℚ := convertCameraToBase data.x data.y data.z

/-- The centre of a box inside the image is a pixel of it. -/
theorem centre_inImage {box : Box ℚ} (hbox : InImage box) :
    (0 ≤ (centre box.x1 box.x2 : ℚ) ∧ (centre box.x1 box.x2 : ℚ) ≤ 3200) ∧
      0 ≤ (centre box.y1 box.y2 : ℚ) ∧ (centre box.y1 box.y2 : ℚ) ≤ 2048 := by
  have hwell := hbox.wellFormed
  obtain ⟨hu₀, hu₁, _⟩ := centre_bounds hwell.x1 (hwell.x1.trans hwell.x12)
  obtain ⟨hv₀, hv₁, _⟩ := centre_bounds hwell.y1 (hwell.y1.trans hwell.y12)
  have hx := hwell.x12.trans hbox.x2
  have hy := hwell.y12.trans hbox.y2
  have hx2 := hbox.x2
  have hy2 := hbox.y2
  exact ⟨⟨hu₀, by linarith⟩, hv₀, by linarith⟩

/-- The base frame's coordinates are linear in the pixel, so the corners of the image
bound them. -/
theorem seen_of_inImage {box : Box ℚ} (hbox : InImage box) :
    Seen (convertCameraToBase (detectedPoint box Z_PLANE).x (detectedPoint box Z_PLANE).y
      (detectedPoint box Z_PLANE).z) := by
  obtain ⟨⟨hu₀, hu₁⟩, hv₀, hv₁⟩ := centre_inImage hbox
  unfold detectedPoint
  generalize (centre box.x1 box.x2 : ℚ) = u at hu₀ hu₁ ⊢
  generalize (centre box.y1 box.y2 : ℚ) = v at hv₀ hv₁ ⊢
  refine ⟨?_, ?_, ?_⟩
  all_goals
    simp only [convertCameraToBase, Vec3.add_eq, Mat3.apply, Vec3.dot, rotationMatrix,
      Quat.matrix, cameraOrientation, translationVector, pixelToCamera, FX, FY, CX, CY, Z_PLANE]
    norm_num
    constructor <;> linarith

/-! ## The detector node -/

/-- Every box that a call returns lies inside the image. -/
def Framed : (o : DetectOp) → o.Res → Prop
  | .predict _, .ok (some boxes) => ∀ box ∈ boxes, InImage box.2
  | _, _ => True

/-- A detection is published only at a point the camera sees. -/
def PublishesSeen : DetectOp → Prop
  | .publish d => Seen (basePoint d.msg)
  | _ => True

/-- `p` publishes such detections only, if its boxes lie inside the image. -/
abbrev DetectsSeen (p : Detecting Unit) : Prop :=
  (Machine.monitor detectSig fun _ _ _ => ()).wp (fun _ => Framed) (fun _ => PublishesSeen) p
    (fun _ _ => True) (fun _ _ => True) ()

theorem imshow_seen : DetectsSeen imshow := by
  refine ⟨trivial, fun (r : Except PyException Unit) _ => ?_⟩
  cases r with
  | error e => exact trivial
  | ok _ => exact trivial

theorem handleBox_seen (k : Nat) {box : String × Box ℚ} (hbox : InImage box.2) :
    DetectsSeen (handleBox k box) := by
  unfold handleBox
  split
  · exact trivial
  · refine ⟨seen_of_inImage hbox, fun (r : Except PyException Unit) _ => ?_⟩
    cases r with
    | error e => exact trivial
    | ok _ => exact trivial

theorem handleBoxes_seen (k : Nat) {boxes : List (String × Box ℚ)}
    (hboxes : ∀ box ∈ boxes, InImage box.2) : DetectsSeen (Prog.forEach (handleBox k) boxes) := by
  induction boxes with
  | nil => exact trivial
  | cons box boxes ih =>
      have hfirst := handleBox_seen k (hboxes box List.mem_cons_self)
      refine Machine.wp_seq hfirst (fun _ _ _ => ?_) fun _ _ he => he
      exact ih fun b hb => hboxes b (List.mem_cons_of_mem box hb)

theorem processImage_seen : DetectsSeen processImage := by
  refine ⟨trivial, fun (none : Bool) _ => ?_⟩
  cases none with
  | true => exact trivial
  | false =>
      refine ⟨trivial, fun (image : Except PyException Nat) _ => ?_⟩
      cases image with
      | error e => exact trivial
      | ok k =>
          refine ⟨trivial, fun (boxes : Except PyException Boxes) hframed => ?_⟩
          cases boxes with
          | error e => exact trivial
          | ok boxes =>
              have hboxes : ∀ box ∈ boxes.getD [], InImage box.2 := by
                cases boxes with
                | none => exact fun box hbox => absurd hbox List.not_mem_nil
                | some boxes => exact hframed
              show DetectsSeen (if (boxes.getD []).length = 0 then imshow else do
                Prog.forEach (handleBox k) (boxes.getD [])
                imshow)
              split
              · exact imshow_seen
              · exact Machine.wp_seq (handleBoxes_seen k hboxes) (fun _ _ _ => imshow_seen)
                  fun _ _ he => he

theorem PublishesSeen.published {o : DetectOp} (h : PublishesSeen o) (r : o.Res) :
    ∀ d ∈ publishedDetections o r, Seen (basePoint d.msg) := by
  intro d hd
  cases o with
  | publish d' =>
      cases r with
      | error e => exact absurd hd List.not_mem_nil
      | ok _ =>
          rw [List.mem_singleton.mp hd]
          exact h
  | _ => exact absurd hd List.not_mem_nil

/-! ## The grasp node -/

/-- Where the tool is sent: above the points the camera sees, no more than 10 cm above
the highest of them. -/
structure Workspace (x y z : ℚ) : Prop where
  x : 0.51 ≤ x ∧ x ≤ 1.15
  y : -0.61 ≤ y ∧ y ≤ 0.35
  z : 0.16 ≤ z ∧ z ≤ 0.33

/-- Where the flange is sent. -/
structure FlangeSpace (p : Vec3 ℚ) : Prop where
  x : 0.24 ≤ p.x ∧ p.x ≤ 1.42
  y : -0.88 ≤ p.y ∧ p.y ≤ 0.62
  z : -0.11 ≤ p.z ∧ p.z ≤ 0.6

/-- What the log may hold of a detection and of a request. -/
def Reachable : VisionEvent → Prop
  | .callback data => Seen (basePoint data)
  | .motionRequested (.pose x y z) => Workspace x y z
  | _ => True

/-- A pose that MoveIt reports has an orientation of length one. -/
def UnitReport : (o : VisionOp) → o.Res → Prop
  | .getCurrentPose, .ok pose => pose.orientation.Unit
  | _, _ => True

/-- An operation that marks reachable events and, if MoveIt reports `units`, sets targets
in the flange's space only. -/
def MarksReachable (units : Prop) : VisionOp → Prop
  | .mark e => Reachable e
  | .setPoseTarget pose => units → FlangeSpace pose.position
  | _ => True

/-- `p` calls such operations only. -/
abbrev AsksReachable (units : Prop) {α : Type} (p : Routine α) : Prop :=
  (Machine.monitor visionSig fun _ _ _ => ()).wp (fun _ o r => units → UnitReport o r)
    (fun _ => MarksReachable units) p (fun _ _ => True) (fun _ _ => True) ()

theorem workspace_of_seen {p : Vec3 ℚ} (hp : Seen p) {offset : ℚ}
    (hoffset : 0.02 ≤ offset ∧ offset ≤ 0.1) : Workspace p.x p.y (p.z + offset) := by
  refine ⟨hp.x, hp.y, ?_, ?_⟩
  · have hz := hp.z.1
    linarith [hoffset.1]
  · have hz := hp.z.2
    linarith [hoffset.2]

/-- A turned vector along the third axis has no coordinate longer than it. -/
theorem turned_bounds {q : Quat ℚ} (hq : q.Unit) {d : ℚ} (hd : 0 ≤ d) :
    (|(q.matrix.apply ⟨0, 0, d⟩).x| ≤ d ∧ |(q.matrix.apply ⟨0, 0, d⟩).y| ≤ d) ∧
      |(q.matrix.apply ⟨0, 0, d⟩).z| ≤ d := by
  have hsum : q.x ^ 2 + q.y ^ 2 + q.z ^ 2 + q.w ^ 2 = 1 := hq
  have hentry : ∀ m : ℚ, |m| ≤ 1 → |m * d| ≤ d := by
    intro m hm
    rw [abs_mul, abs_of_nonneg hd]
    exact mul_le_of_le_one_left hd hm
  have hx : (q.matrix.apply ⟨0, 0, d⟩).x = 2 * (q.x * q.z + q.y * q.w) * d := by
    simp [Quat.matrix, Mat3.apply, Vec3.dot]
  have hy : (q.matrix.apply ⟨0, 0, d⟩).y = 2 * (q.y * q.z - q.x * q.w) * d := by
    simp [Quat.matrix, Mat3.apply, Vec3.dot]
  have hz : (q.matrix.apply ⟨0, 0, d⟩).z = (1 - 2 * (q.x ^ 2 + q.y ^ 2)) * d := by
    simp [Quat.matrix, Mat3.apply, Vec3.dot]
  rw [hx, hy, hz]
  refine ⟨⟨hentry _ (abs_le.mpr ⟨?_, ?_⟩), hentry _ (abs_le.mpr ⟨?_, ?_⟩)⟩,
    hentry _ (abs_le.mpr ⟨?_, ?_⟩)⟩
  · nlinarith [sq_nonneg (q.x + q.z), sq_nonneg (q.y + q.w)]
  · nlinarith [sq_nonneg (q.x - q.z), sq_nonneg (q.y - q.w)]
  · nlinarith [sq_nonneg (q.y + q.z), sq_nonneg (q.x - q.w)]
  · nlinarith [sq_nonneg (q.y - q.z), sq_nonneg (q.x + q.w)]
  · nlinarith [sq_nonneg q.z, sq_nonneg q.w]
  · nlinarith [sq_nonneg q.x, sq_nonneg q.y]

theorem flangeSpace_of_workspace {x y z : ℚ} (h : Workspace x y z) {q : Quat ℚ} (hq : q.Unit) :
    FlangeSpace (⟨x, y, z⟩ - q.matrix.apply ⟨0, 0, TOOL_OFFSET_Z⟩) := by
  obtain ⟨⟨hx, hy⟩, hz⟩ := turned_bounds hq (d := TOOL_OFFSET_Z) (by norm_num [TOOL_OFFSET_Z])
  generalize q.matrix.apply ⟨0, 0, TOOL_OFFSET_Z⟩ = t at hx hy hz ⊢
  norm_num [TOOL_OFFSET_Z, abs_le] at hx hy hz
  obtain ⟨hx₀, hx₁⟩ := h.x
  obtain ⟨hy₀, hy₁⟩ := h.y
  obtain ⟨hz₀, hz₁⟩ := h.z
  norm_num at hx₀ hx₁ hy₀ hy₁ hz₀ hz₁
  refine ⟨⟨?_, ?_⟩, ⟨?_, ?_⟩, ?_, ?_⟩
  all_goals
    simp only [Vec3.sub_eq]
    norm_num
    linarith

section Node

variable {units : Prop}

theorem asksReachable_of_uses {α : Type} {p : Routine α} (hp : p.Uses (MarksReachable units)) :
    AsksReachable units p :=
  Machine.wp_of_uses (I := fun _ => True) (fun _ _ _ ho => ⟨ho, fun _ _ => trivial⟩) hp trivial

theorem gripperCall_marksReachable {o : VisionOp} (ho : o.GripperCall) :
    MarksReachable units o := by
  cases o with
  | setPoseTarget pose => exact ho.elim
  | mark e =>
      cases e with
      | gripperOpenCalled => exact trivial
      | graspCalled => exact trivial
      | _ => exact ho.elim
  | _ => exact trivial

theorem armCall_marksReachable {o : VisionOp} (ho : o.ArmCall) : MarksReachable units o := by
  cases o with
  | setPoseTarget pose => exact ho.elim
  | mark e => exact ho.elim
  | _ => exact trivial

/-- The flange is sent where the reported orientation puts the tool on the target. -/
theorem planToPose_asksReachable {x y z : ℚ} (hrequest : Workspace x y z) :
    AsksReachable units (planToPose x y z) := by
  refine ⟨trivial, fun (reported : Except PyException Pose) hreported => ?_⟩
  cases reported with
  | error e => exact trivial
  | ok reported =>
      refine asksReachable_of_uses (planToFlange_uses (fun _ => armCall_marksReachable) ?_)
      exact fun _ hunits => flangeSpace_of_workspace hrequest (hreported hunits)

theorem asksReachable_compositional :
    Compositional (MarksReachable units) fun _ p => AsksReachable units p where
  bind hp hf := Machine.wp_seq hp (fun a _ _ => hf a) fun _ _ _ => trivial
  tryCatch hp hh := Machine.wp_catch hp fun e _ _ => hh e
  of_uses := asksReachable_of_uses
  gripperInit := asksReachable_of_uses (gripperInit_calls.mono fun _ => gripperCall_marksReachable)
  gripperOpen := asksReachable_of_uses (gripperOpen_calls.mono fun _ => gripperCall_marksReachable)
  gripperGraspGentle :=
    asksReachable_of_uses (gripperGraspGentle_calls.mono fun _ => gripperCall_marksReachable)
  planToPose _ _ _ hrequest := planToPose_asksReachable hrequest
  planToJointValues jointValues :=
    asksReachable_of_uses (planToJointValues_uses (fun _ => armCall_marksReachable) jointValues)

/-- The steps of a task ask for poses of the workspace, from a point that the camera sees. -/
theorem steps_marksReachable {base : Vec3 ℚ} (hbase : Seen base) :
    StepCalls (MarksReachable units) base where
  sleep := trivial
  approach := workspace_of_seen hbase (by norm_num [GRASP_APPROACH_Z])
  down := workspace_of_seen hbase (by norm_num [GRASP_DOWN_Z])
  home := trivial
  returned _ _ := trivial

theorem objectPoseCallback_asksReachable {data : ObjectInfo} (hdata : Seen (basePoint data)) :
    AsksReachable units (objectPoseCallback data) :=
  asksReachable_compositional.objectPoseCallback
    ⟨hdata, trivial, trivial, fun _ => trivial, trivial, trivial, fun _ => trivial,
      steps_marksReachable hdata⟩

end Node

/-! ## The cell -/

/-- The boxes of the detector lie inside the image. -/
def InFrame (s : GraspCell) : CellAction → Prop
  | .process pick => ∀ o ∈ s.processing.next, Framed o (detector.exec o (pick o) s.detectNode).1
  | _ => True

/-- MoveIt reports orientations of length one. -/
def UnitReports (s : GraspCell) : CellAction → Prop
  | .grasp pick => ∀ o ∈ s.callback.next, UnitReport o (vision.exec o (pick o) s.graspNode).1
  | _ => True

/-- Whatever is on its way is a point the camera sees. -/
structure Confined (units : Prop) (log : List VisionEvent) (s : GraspCell) : Prop where
  processing : DetectsSeen s.processing
  topic : s.topic.All fun d => Seen (basePoint d.msg)
  callback : AsksReachable units s.callback
  log : ∀ e ∈ s.graspNode.log, e ∈ log ∨ Reachable e

variable {units : Prop}

/-- An operation that marks reachable events logs reachable events. -/
theorem reachable_exec {o : VisionOp} (ho : MarksReachable units o) (x : vision.Choice o)
    {s : VisionState} {e : VisionEvent} (he : e ∈ (vision.exec o x s).2.log) :
    e ∈ s.log ∨ Reachable e := by
  rcases log_exec_cases o x s with hsame | ⟨new, hlogs, hlog⟩
  · rw [hsame] at he
    exact .inl he
  · rw [hlog] at he
    rcases List.mem_cons.mp he with rfl | he
    · right
      cases hlogs with
      | marked => exact ho
      | _ => exact trivial
    · exact .inl he

variable {s t : GraspCell} {log : List VisionEvent}

/-- **Step.** -/
theorem Confined.step (h : Confined units log s) {a : CellAction} (hframe : InFrame s a)
    (hunits : units → UnitReports s a) (hstep : s.step a = some t) : Confined units log t := by
  cases a with
  | image converted =>
      obtain rfl := Option.some.inj hstep
      exact ⟨h.processing, h.topic, h.callback, h.log⟩
  | tick =>
      simp only [GraspCell.step] at hstep
      split at hstep
      · obtain rfl := Option.some.inj hstep
        exact ⟨processImage_seen, h.topic, h.callback, h.log⟩
      · exact absurd hstep (by simp)
  | process pick =>
      simp only [GraspCell.step] at hstep
      split at hstep
      · rename_i o k hprocessing
        obtain rfl := Option.some.inj hstep
        have hnow := h.processing
        rw [hprocessing] at hnow
        have hframed := hframe o (by rw [hprocessing]; rfl)
        exact ⟨hnow.2 _ hframed, h.topic.publish (hnow.1.published _), h.callback, h.log⟩
      · exact absurd hstep (by simp)
  | transport x =>
      obtain ⟨topic, hmove, rfl⟩ := Option.map_eq_some_iff.mp hstep
      exact ⟨h.processing, h.topic.move hmove, h.callback, h.log⟩
  | deliver =>
      simp only [GraspCell.step] at hstep
      split at hstep
      · exact absurd hstep (by simp)
      · exact absurd hstep (by simp)
      · rename_i d topic htake _
        obtain rfl := Option.some.inj hstep
        obtain ⟨hd, htopic⟩ := h.topic.take htake
        exact ⟨h.processing, htopic, objectPoseCallback_asksReachable hd, h.log⟩
  | grasp pick =>
      simp only [GraspCell.step] at hstep
      split at hstep
      · rename_i o k hcallback
        obtain rfl := Option.some.inj hstep
        have hnow := h.callback
        rw [hcallback] at hnow
        have hreport : units → UnitReport o (vision.exec o (pick o) s.graspNode).1 :=
          fun hu => hunits hu o (by rw [hcallback]; rfl)
        refine ⟨h.processing, h.topic, hnow.2 _ hreport, fun e he => ?_⟩
        rcases reachable_exec hnow.1 (pick o) he with hold | hnew
        · exact h.log e hold
        · exact .inr hnew
      · exact absurd hstep (by simp)

theorem confined_start (units : Prop) (graspNode : VisionState) :
    Confined units graspNode.log (.start graspNode) :=
  ⟨trivial, Topic.all_empty, trivial, fun _ he => .inl he⟩

/-- **Requests.** For every delay, loss and failure in both nodes, as long as the boxes
of the detector lie inside the image: no detection that reaches the grasp node is
rejected for its height, and every target that the tool is asked for lies in the
workspace. If the orientations that MoveIt reports have length one, every target that it
is given lies in the flange's space. -/
theorem requests_inWorkspace (graspNode : VisionState) {s : GraspCell}
    (hrun : Reach GraspCell.step InFrame (.start graspNode) s) :
    (∀ data, .callback data ∈ s.graspNode.log → .callback data ∈ graspNode.log ∨
      ¬ ((basePoint data).z < 0 ∨ (basePoint data).z > 0.8)) ∧
    (∀ x y z, .motionRequested (.pose x y z) ∈ s.graspNode.log →
      .motionRequested (.pose x y z) ∈ graspNode.log ∨ Workspace x y z) ∧
    (Reach GraspCell.step (fun t a => InFrame t a ∧ UnitReports t a) (.start graspNode) s →
      ∀ pose, s.callback.next = some (.setPoseTarget pose) → FlangeSpace pose.position) := by
  -- nothing is assumed of MoveIt for the first two parts
  have h : Confined False graspNode.log s :=
    hrun.invariant (confined_start _ _) fun _ _ _ h hframe hstep =>
      h.step hframe False.elim hstep
  refine ⟨fun data hdata => ?_, fun x y z hrequest => h.log _ hrequest, fun hunits pose hpose => ?_⟩
  · rcases h.log _ hdata with hold | hseen
    · exact .inl hold
    · have hz : 0.14 ≤ (basePoint data).z ∧ (basePoint data).z ≤ 0.23 := Seen.z hseen
      right
      rintro (hlow | hhigh)
      · linarith [hz.1]
      · linarith [hz.2]
  · -- the same run, with what MoveIt promises of its reports
    have hconfined : Confined True graspNode.log s :=
      hunits.invariant (confined_start _ _) fun _ _ _ h hC hstep =>
        h.step hC.1 (fun _ => hC.2) hstep
    exact Machine.wp_next hconfined.callback hpose trivial

instance (box : Box ℚ) : Decidable (InImage box) :=
  decidable_of_iff
    ((0 ≤ box.x1 ∧ box.x1 ≤ box.x2 ∧ 0 ≤ box.y1 ∧ box.y1 ≤ box.y2) ∧ box.x2 ≤ 3200 ∧ box.y2 ≤ 2048)
    ⟨fun h => ⟨⟨h.1.1, h.1.2.1, h.1.2.2.1, h.1.2.2.2⟩, h.2.1, h.2.2⟩,
      fun h => ⟨⟨h.wellFormed.x1, h.wellFormed.x12, h.wellFormed.y1, h.wellFormed.y12⟩, h.x2, h.y2⟩⟩

instance : (o : DetectOp) → (r : o.Res) → Decidable (Framed o r)
  | .predict _, .ok (some boxes) =>
      inferInstanceAs (Decidable (∀ box ∈ boxes, InImage box.2))
  | .predict _, .ok none | .predict _, .error _ => inferInstanceAs (Decidable True)
  | .latestImageIsNone, _ | .copyLatestImage, _ | .publish _, _ | .imshow, _ =>
      inferInstanceAs (Decidable True)

instance (s : GraspCell) : (a : CellAction) → Decidable (InFrame s a)
  | .process pick => inferInstanceAs (Decidable
      (∀ o ∈ s.processing.next, Framed o (detector.exec o (pick o) s.detectNode).1))
  | .image _ | .tick | .transport _ | .deliver | .grasp _ => inferInstanceAs (Decidable True)

instance : (o : VisionOp) → (r : o.Res) → Decidable (UnitReport o r)
  | .getCurrentPose, .ok pose => inferInstanceAs (Decidable pose.orientation.Unit)
  | .getCurrentPose, .error _ => inferInstanceAs (Decidable True)
  | .openInstrument, _ | .writeRegister _ _, _ | .writeLong _ _, _ | .rospySleep _, _
  | .timeNow, _ | .setStartStateToCurrentState, _ | .setPoseTarget _, _
  | .setJointValueTarget _, _ | .plan, _ | .clearPoseTargets, _ | .execute _, _ | .publish _, _
  | .initMoveIt, _ | .waitForMessage, _ | .readObjectMsg, _ | .writeObjectMsg _, _
  | .readIsBusy, _ | .writeIsBusy _, _ | .mark _, _ => inferInstanceAs (Decidable True)

instance (s : GraspCell) : (a : CellAction) → Decidable (UnitReports s a)
  | .grasp pick => inferInstanceAs (Decidable
      (∀ o ∈ s.callback.next, UnitReport o (vision.exec o (pick o) s.graspNode).1))
  | .image _ | .tick | .transport _ | .deliver | .process _ => inferInstanceAs (Decidable True)

/-- The pose that is set. -/
def targetOf : VisionOp → Option Pose
  | .setPoseTarget pose => some pose
  | _ => none

/-- A bottle is seen and the tool is above it: MoveIt is about to be given the pose at the
bottle. -/
def aboveBottle : List CellAction :=
  looks [nearCentre] ++ [.transport .arrive, .deliver] ++ grasps 27

/-- `requests_inWorkspace` at this moment. -/
theorem requests_inWorkspace_aboveBottle :
    (∀ data, .callback data ∈ (after aboveBottle).graspNode.log →
      .callback data ∈ readyForBottles.log ∨
        ¬ ((basePoint data).z < 0 ∨ (basePoint data).z > 0.8)) ∧
    (∀ x y z, .motionRequested (.pose x y z) ∈ (after aboveBottle).graspNode.log →
      .motionRequested (.pose x y z) ∈ readyForBottles.log ∨ Workspace x y z) ∧
    ∃ pose, (after aboveBottle).callback.next = some (.setPoseTarget pose) ∧
      FlangeSpace pose.position := by
  have hrun : Reach GraspCell.step InFrame (.start readyForBottles) (after aboveBottle) :=
    after_reach (by decide +kernel)
  have hunits : Reach GraspCell.step (fun t a => InFrame t a ∧ UnitReports t a)
      (.start readyForBottles) (after aboveBottle) := after_reach (by decide +kernel)
  obtain ⟨hseen, htool, hflange⟩ := requests_inWorkspace readyForBottles hrun
  have hset : ((after aboveBottle).callback.next.bind targetOf).isSome = true := by
    decide +kernel
  refine ⟨hseen, htool, ?_⟩
  cases hnext : (after aboveBottle).callback.next with
  | none =>
      rw [hnext] at hset
      cases hset
  | some o =>
      rw [hnext] at hset
      cases o with
      | setPoseTarget pose => exact ⟨pose, rfl, hflange hunits pose hnext⟩
      | _ => cases hset

end HakRobot.Cell
