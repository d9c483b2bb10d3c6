import HakRobot.Driver.ExactDelivery
import HakRobot.Driver.Recovery
import Mathlib.Logic.Equiv.Fin.Basic

/-!
# The order of the joints

The driver node has a list of joint names of its own, and a trajectory carries
another one. `execute_trajectory` looks at neither: field `k` of a line is
position `k` of the point.

* `executeTrajectory_congr` — two trajectories whose points show the same are
  the same program;
* `callback_written` — a run without failures writes every point, so the runs of
  two trajectories tell whether their points show the same;
* `jointOrder_iff` — when reordering a trajectory does not change its runs, and
  when its lines are in the order of the driver.
-/

namespace HakRobot.Driver

open HakRobot.Proc

variable {c : ℚ}

/-! ## Joint names -/

/-- `HKDriverNode.joint_names`. -/
def jointNames : List String := ["joint1", "joint2", "joint3", "joint4", "joint5", "j_hkrobot"]

/-- The positions of a trajectory with the joint names `names`, in the order of
the driver. -/
def inDriverOrder (names : List String) (positions : List ℚ) : List ℚ :=
  jointNames.map fun name => positions.getD (names.idxOf name) 0

/-- Six entries, reordered: entry `k` is the old entry `σ k`. -/
def permuted {α : Type} [Inhabited α] (σ : Equiv.Perm (Fin 6)) (xs : List α) : List α :=
  List.ofFn fun k => xs.getD (σ k) default

/-- The trajectory with other positions in every point. -/
def withPositions (f : List ℚ → List ℚ) (trajectory : JointTrajectory) :
    List JointTrajectoryPoint :=
  trajectory.points.map fun point => { point with positions := f point.positions }

/-- `joint_names` and all positions, reordered together. -/
def reordered (σ : Equiv.Perm (Fin 6)) (trajectory : JointTrajectory) : JointTrajectory :=
  { trajectory with
    jointNames := permuted σ trajectory.jointNames
    points := withPositions (permuted σ) trajectory }

/-- A trajectory for the joints of the driver, in any order. -/
structure ForDriver (trajectory : JointTrajectory) : Prop where
  names : trajectory.jointNames.Perm jointNames
  six : ∀ point ∈ trajectory.points, point.positions.length = 6

theorem length_inDriverOrder (names : List String) (positions : List ℚ) :
    (inDriverOrder names positions).length = 6 :=
  List.length_map _

theorem length_permuted {α : Type} [Inhabited α] (σ : Equiv.Perm (Fin 6)) (xs : List α) :
    (permuted σ xs).length = 6 :=
  List.length_ofFn

/-! ## Trajectories that show the same -/

/-- Two points of six positions with the same line. -/
structure ShowSame (c : ℚ) (point point' : JointTrajectoryPoint) : Prop where
  six : point.positions.length = 6
  six' : point'.positions.length = 6
  line : encodeLine c point.positions = encodeLine c point'.positions

theorem sendJointPositions_congr {xs ys : List ℚ} (hlength : xs.length = ys.length)
    (hline : encodeLine c xs = encodeLine c ys) :
    sendJointPositions c xs = sendJointPositions c ys := by
  unfold sendJointPositions
  rw [hlength, hline]

theorem sendPoints_congr (h : TrajectoryHandler) (total i : Nat)
    {points points' : List JointTrajectoryPoint}
    (hsame : List.Forall₂ (ShowSame c) points points') :
    sendPoints c h total i points = sendPoints c h total i points' := by
  induction hsame generalizing i with
  | nil => rfl
  | cons hpoint _ ih =>
      unfold sendPoints
      rw [ih (i + 1), hpoint.six, hpoint.six',
        sendJointPositions_congr (hpoint.six.trans hpoint.six'.symm) hpoint.line]

theorem executeTrajectory_congr (h : TrajectoryHandler) {trajectory trajectory' : JointTrajectory}
    (hsame : List.Forall₂ (ShowSame c) trajectory.points trajectory'.points) :
    executeTrajectory c h trajectory = executeTrajectory c h trajectory' := by
  unfold executeTrajectory
  rw [hsame.length_eq, sendPoints_congr h _ 0 hsame]

/-! ## The entry points -/

/-- What receives a trajectory: the topic or the action server. -/
inductive EntryPoint
  | topic
  | action

/-- Its callback, for its effect. -/
def EntryPoint.callback (c sendInterval : ℚ) : EntryPoint → JointTrajectory → Method Unit
  | .topic, msg => (trajectoryCallback c (topicHandler sendInterval) msg).discard
  | .action, goal => (executeCallback c (actionHandler sendInterval) goal).discard

/-- A run of `p` from `s` can end with the result `r` after the calls `w`. -/
def EndsWith (p : Method Unit) (s : ClientState) (r : Except PyException Unit) (w : List Send) :
    Prop :=
  ∃ s', stoppable.Steps (Machine.anyChoice _) (p, s) (.ofExcept r, s') ∧ s'.sends = s.sends ++ w

/-- Two programs send the same lines, whatever the outside world does and
whenever executions are stopped. -/
def SameLines (p p' : Method Unit) : Prop := ∀ s r w, EndsWith p s r w ↔ EndsWith p' s r w

/-- The lines that `entry` sends for `trajectory` are those of its points with the
positions in the order of the driver. -/
def LinesInOrder (c sendInterval : ℚ) (entry : EntryPoint) (trajectory : JointTrajectory) : Prop :=
  ∀ s s', stoppable.Steps (Machine.anyChoice _) (entry.callback c sendInterval trajectory, s)
      (.ret (), s') →
    ∃ b fates, Execution c (withPositions (inDriverOrder trajectory.jointNames) trajectory) fates
      s b s'

section Callback

variable {sendInterval : ℚ} {trajectory : JointTrajectory}

theorem callback_congr (entry : EntryPoint) {trajectory' : JointTrajectory}
    (hsame : List.Forall₂ (ShowSame c) trajectory.points trajectory'.points) :
    entry.callback c sendInterval trajectory = entry.callback c sendInterval trajectory' := by
  cases entry with
  | topic =>
      show (executeTrajectory c _ trajectory).discard = (executeTrajectory c _ trajectory').discard
      rw [executeTrajectory_congr _ hsame]
  | action =>
      simp only [EntryPoint.callback, executeCallback]
      rw [executeTrajectory_congr _ hsame]

/-- What holds of the executions of a handler holds of its callback. -/
theorem callback_wp {M : Machine driverSig ClientState} {R : M.Rely} {s : ClientState}
    {I : ClientState → Prop} {E : PyException → ClientState → Prop} (entry : EntryPoint)
    (hexec : ∀ h : TrajectoryHandler,
      M.Ends R (executeTrajectory c h trajectory) (fun _ => I) E s) :
    M.Ends R (entry.callback c sendInterval trajectory) (fun _ => I) E s := by
  cases entry with
  | topic => exact Machine.wp_seq (hexec _) (fun _ _ h => h) fun _ _ h => h
  | action =>
      refine Machine.wp_seq (P := fun _ => I) ?_ (fun _ _ h => h) fun _ _ h => h
      refine Machine.wp_seq (hexec _) ?_ fun _ _ h => h
      intro b s' h
      cases b with
      | true => exact h
      | false => exact h

/-- Every callback can end with all its lines written. -/
theorem callback_written (entry : EntryPoint)
    (hsix : ∀ point ∈ trajectory.points, point.positions.length = 6)
    (hne : trajectory.points.length ≠ 0) {s : ClientState} (hs : s.Serving) :
    ∃ s', stoppable.Steps (Machine.anyChoice _) (entry.callback c sendInterval trajectory, s)
        (.ret (), s') ∧
      s'.sends = (s.wrote (trajectory.points.map (encodeLine c ·.positions))).sends := by
  have hends : driver.Ends whileReachable (entry.callback c sendInterval trajectory)
      (fun _ s' => s'.sends = (s.wrote (trajectory.points.map (encodeLine c ·.positions))).sends)
      (fun _ _ => False) s := by
    refine callback_wp entry fun h => ?_
    exact Machine.wp_mono (fun _ _ hpost => hpost.2) (fun _ _ he => he)
      (executeTrajectory_written h hne hsix hs)
  have hrun := smoothly_steps success_whileReachable
    (entry.callback c sendInterval trajectory) s
  have hany := smoothly_steps (R := driver.anyChoice) (fun _ _ => trivial)
    (entry.callback c sendInterval trajectory) s
  cases hresult : (smoothly (entry.callback c sendInterval trajectory) s).1 with
  | ok _ =>
      rw [hresult] at hrun hany
      have hsends := Machine.wp_returns hends hrun
      exact ⟨_, Machine.Steps.interfered hany, hsends⟩
  | error e =>
      rw [hresult] at hrun
      exact (Machine.wp_raises hends hrun).elim

theorem callback_execution (entry : EntryPoint) {s s' : ClientState}
    (hrun : stoppable.Steps (Machine.anyChoice _) (entry.callback c sendInterval trajectory, s)
      (.ret (), s')) :
    ∃ b fates, Execution c trajectory.points fates s b s' := by
  have hends : stoppable.Ends (Machine.anyChoice _) (entry.callback c sendInterval trajectory)
      (fun _ s' => ∃ b fates, Execution c trajectory.points fates s b s') (fun _ _ => True) s := by
    refine callback_wp entry fun h => ?_
    exact Machine.wp_mono (fun b _ h => ⟨b, h⟩) (fun _ _ _ => trivial)
      (executeTrajectory_execution h trajectory s)
  exact Machine.wp_returns hends hrun

end Callback

/-! ## When the order of the joints does not matter -/

theorem completeLines_wrote (socket : Option Nat) (lines : List (List Char)) :
    completeLines (lines.map fun line => ⟨socket, line, none⟩) = lines := by
  have hwhole : ∀ x ∈ lines.map (fun line => (⟨socket, line, none⟩ : Send)),
      decide x.Whole = true := by
    intro x hx
    obtain ⟨line, _, rfl⟩ := List.mem_map.mp hx
    rfl
  rw [completeLines, List.filter_eq_self.mpr hwhole, List.map_map]
  exact List.map_id _

/-- An execution of `points` that wrote as many lines wrote those of `points`. -/
theorem Execution.shows {points : List JointTrajectoryPoint} {lines : List (List Char)}
    {fates : List PointFate} {s s' : ClientState} {b : Bool}
    (h : Execution c points fates s b s') (hs' : s'.sends = (s.wrote lines).sends)
    (hlength : lines.length = points.length) :
    lines = points.map (encodeLine c ·.positions) := by
  obtain ⟨w, hw, hexact⟩ := h.exact
  have hlines : completeLines w = lines := by
    rw [List.append_cancel_left (hw.symm.trans hs'), completeLines_wrote]
  have hall : writtenPoints points fates = points := by
    have hsub : (writtenPoints points fates).Sublist points := by
      have hzip :=
        (List.filter_sublist (l := points.zip fates) (p := (·.2 = .written))).map Prod.fst
      rwa [List.map_fst_zip hexact.length.ge] at hzip
    apply hsub.eq_of_length
    have hcount := congrArg List.length (hexact.lines.symm.trans hlines)
    rw [List.length_map] at hcount
    rw [hcount, hlength]
  rw [← hlines, hexact.lines, hall]

section Order

variable {sendInterval : ℚ} {trajectory : JointTrajectory} {f : List ℚ → List ℚ}

theorem started_serving : started.Serving :=
  ⟨by decide +kernel, ⟨0, by decide +kernel, by decide +kernel⟩, by decide +kernel⟩

/-- The points with their positions changed by `f` show the same. -/
def Alike (c : ℚ) (f : List ℚ → List ℚ) (trajectory : JointTrajectory) : Prop :=
  ∀ point ∈ trajectory.points,
    (f point.positions).map (shownAngle c) = point.positions.map (shownAngle c)

instance (c : ℚ) (f : List ℚ → List ℚ) (trajectory : JointTrajectory) :
    Decidable (Alike c f trajectory) :=
  inferInstanceAs (Decidable (∀ _ ∈ _, _))

theorem encodeLine_six {xs ys : List ℚ} (hxs : xs.length = 6) (hys : ys.length = 6) :
    encodeLine c xs = encodeLine c ys ↔ ys.map (shownAngle c) = xs.map (shownAngle c) := by
  rw [encodeLine_inj (List.ne_nil_of_length_pos (by omega)) (List.ne_nil_of_length_pos (by omega)),
    eq_comm]

theorem Alike.showSame (h : Alike c f trajectory)
    (hsix : ∀ point ∈ trajectory.points, point.positions.length = 6)
    (hf : ∀ xs, (f xs).length = 6) :
    List.Forall₂ (ShowSame c) trajectory.points (withPositions f trajectory) := by
  rw [withPositions, List.forall₂_map_right_iff, List.forall₂_same]
  intro point hpoint
  exact ⟨hsix point hpoint, hf _, (encodeLine_six (hsix point hpoint) (hf _)).mpr (h point hpoint)⟩

/-- If the calls of the run without failures are also those of an execution of
the changed points, these show the same. -/
theorem alike_of_execution (hsix : ∀ point ∈ trajectory.points, point.positions.length = 6)
    (hf : ∀ xs, (f xs).length = 6) {fates : List PointFate} {s s' : ClientState} {b : Bool}
    (h : Execution c (withPositions f trajectory) fates s b s')
    (hs' : s'.sends = (s.wrote (trajectory.points.map (encodeLine c ·.positions))).sends) :
    Alike c f trajectory := by
  have hlines := h.shows hs' (by rw [withPositions, List.length_map, List.length_map])
  rw [withPositions, List.map_map, List.map_inj_left] at hlines
  intro point hpoint
  exact (encodeLine_six (hsix point hpoint) (hf _)).mp (hlines point hpoint)

theorem Alike.of_empty (hempty : trajectory.points.length = 0) : Alike c f trajectory := by
  intro point hpoint
  rw [List.length_eq_zero_iff.mp hempty] at hpoint
  exact absurd hpoint List.not_mem_nil

theorem sameLines_iff (entry : EntryPoint) (σ : Equiv.Perm (Fin 6))
    (hsix : ∀ point ∈ trajectory.points, point.positions.length = 6) :
    SameLines (entry.callback c sendInterval trajectory)
        (entry.callback c sendInterval (reordered σ trajectory)) ↔
      Alike c (permuted σ) trajectory := by
  constructor
  · intro hsame
    by_cases hempty : trajectory.points.length = 0
    · exact .of_empty hempty
    · obtain ⟨s', hrun, hs'⟩ : ∃ s', stoppable.Steps (Machine.anyChoice _)
          (entry.callback c sendInterval trajectory, started) (.ret (), s') ∧
          s'.sends =
            (started.wrote (trajectory.points.map (encodeLine c ·.positions))).sends :=
        callback_written entry hsix hempty started_serving
      obtain ⟨s'', hrun', hs''⟩ := (hsame started (.ok ()) _).mp ⟨s', hrun, hs'⟩
      obtain ⟨b, fates, hexec⟩ := callback_execution entry hrun'
      exact alike_of_execution hsix (length_permuted σ) hexec hs''
  · intro halike
    have heq : entry.callback c sendInterval trajectory =
        entry.callback c sendInterval (reordered σ trajectory) :=
      callback_congr entry (halike.showSame hsix (length_permuted σ))
    intro s r w
    rw [heq]

theorem linesInOrder_iff (entry : EntryPoint)
    (hsix : ∀ point ∈ trajectory.points, point.positions.length = 6) :
    LinesInOrder c sendInterval entry trajectory ↔
      Alike c (inDriverOrder trajectory.jointNames) trajectory := by
  have hf := length_inDriverOrder trajectory.jointNames
  constructor
  · intro hlines
    by_cases hempty : trajectory.points.length = 0
    · exact .of_empty hempty
    · obtain ⟨s', hrun, hs'⟩ : ∃ s', stoppable.Steps (Machine.anyChoice _)
          (entry.callback c sendInterval trajectory, started) (.ret (), s') ∧
          s'.sends =
            (started.wrote (trajectory.points.map (encodeLine c ·.positions))).sends :=
        callback_written entry hsix hempty started_serving
      obtain ⟨b, fates, hexec⟩ := hlines started s' hrun
      exact alike_of_execution hsix hf hexec hs'
  · intro halike s s' hrun
    have heq : entry.callback c sendInterval trajectory = entry.callback c sendInterval
        { trajectory with
          points := withPositions (inDriverOrder trajectory.jointNames) trajectory } :=
      callback_congr entry (halike.showSame hsix hf)
    rw [heq] at hrun
    exact callback_execution entry hrun

end Order

/-- **Joint order.** For both entry points and every trajectory for the driver's
joints, in any order: reordering the joint names and all positions together
leaves the lines sent as they are if and only if the reordered points show the
same angles, and the lines are in the order of the driver if and only if the
points show the same angles in that order. -/
theorem jointOrder_iff (entry : EntryPoint) (sendInterval : ℚ) {trajectory : JointTrajectory}
    (htrajectory : ForDriver trajectory) (σ : Equiv.Perm (Fin 6)) :
    (SameLines (entry.callback c sendInterval trajectory)
        (entry.callback c sendInterval (reordered σ trajectory)) ↔
      Alike c (permuted σ) trajectory) ∧
    (LinesInOrder c sendInterval entry trajectory ↔
      Alike c (inDriverOrder trajectory.jointNames) trajectory) :=
  ⟨sameLines_iff entry σ htrajectory.six, linesInOrder_iff entry htrajectory.six⟩

/-! ## Two joints listed the other way round -/

/-- The first two joints are listed in the order `joint2`, `joint1`. -/
def swappedNames : List String := permuted (Equiv.swap 0 1) jointNames

/-- A trajectory of one point for the joints `swappedNames`. -/
def swappedPoint (positions : List ℚ) : JointTrajectory :=
  ⟨0, swappedNames, [⟨positions, [], [], 1⟩]⟩

/-- Both joints at the same angle, so their order does not matter. -/
theorem jointOrder_sameAngles :
    SameLines (EntryPoint.callback 57 0.05 .action (swappedPoint [1, 1, 0, 0, 0, 0]))
        (EntryPoint.callback 57 0.05 .action
          (reordered (Equiv.swap 0 1) (swappedPoint [1, 1, 0, 0, 0, 0]))) ∧
      LinesInOrder 57 0.05 .action (swappedPoint [1, 1, 0, 0, 0, 0]) := by
  have hdriver : ForDriver (swappedPoint [1, 1, 0, 0, 0, 0]) := ⟨by decide, by decide⟩
  have hiff := jointOrder_iff (c := 57) .action 0.05 hdriver (Equiv.swap 0 1)
  exact ⟨hiff.1.mpr (by decide +kernel), hiff.2.mpr (by decide +kernel)⟩

/-- `joint2` at one radian and `joint1` at zero: the line moves `joint1`. -/
theorem jointOrder_swapped :
    ForDriver (swappedPoint [1, 0, 0, 0, 0, 0]) ∧
      (smoothly (EntryPoint.callback 57 0.05 .topic (swappedPoint [1, 0, 0, 0, 0, 0]))
        started).2.sends = [⟨some 0,
          "57.0000,0.0000,0.0000,0.0000,0.0000,0.0000\n".toList, none⟩] ∧
      inDriverOrder swappedNames [1, 0, 0, 0, 0, 0] = [0, 1, 0, 0, 0, 0] ∧
      ¬ LinesInOrder 57 0.05 .topic (swappedPoint [1, 0, 0, 0, 0, 0]) ∧
      ¬ SameLines (EntryPoint.callback 57 0.05 .topic (swappedPoint [1, 0, 0, 0, 0, 0]))
        (EntryPoint.callback 57 0.05 .topic
          (reordered (Equiv.swap 0 1) (swappedPoint [1, 0, 0, 0, 0, 0]))) := by
  have hdriver : ForDriver (swappedPoint [1, 0, 0, 0, 0, 0]) := ⟨by decide, by decide⟩
  refine ⟨hdriver, by decide +kernel, by decide, ?_, ?_⟩
  · rw [linesInOrder_iff _ hdriver.six]
    decide +kernel
  · rw [sameLines_iff _ _ hdriver.six]
    decide +kernel

end HakRobot.Driver
