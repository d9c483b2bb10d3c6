import HakRobot.Cell.Descent
import HakRobot.Driver.Interleaving
import HakRobot.Grab.EndPoints
import Mathlib.Data.List.Flatten

/-!
# At most one line for each plan

Between a plan of the grasp node and the robot lie a publisher that may drop its
oldest message, a subscription that keeps the newest one only, and a driver that
sends a line again on a new connection. None of them repeats or reorders anything.

* `InOrder.step` — the messages the driver took and those still on the topic are
  messages of the grasp node in their order, and the lines on the wire are lines of
  the messages taken, in their order;
* `lines_of_plans` — so the robot gets at most one line for each plan, in the order
  of the plans.
-/

namespace HakRobot.Cell

open HakRobot.Driver HakRobot.Grab HakRobot.Proc

/-- What is left of the callback of the driver. -/
def ArmCell.driving (s : ArmCell) : Method Bool :=
  match s.handling with
  | some h => h.rest
  | none => .ret true

/-- At every moment from `ℓ` on, what `p` has added to `base` are lines of
`messages`, in their order. -/
def DrivesWithin (c : ℚ) (base : List (List Char)) (messages : List JointTrajectory)
    (p : Method Bool) (ℓ : List (List Char)) : Prop :=
  let Within (ℓ' : List (List Char)) := Extends base (messages.flatMap (trajectoryLines c)) ℓ'
  lineMonitor.wp (Machine.anyChoice _) (fun ℓ' _ => Within ℓ') p (fun _ => Within)
    (fun _ => Within) ℓ

variable {c interval : ℚ} {base ℓ : List (List Char)} {messages : List JointTrajectory}
  {s t : ArmCell}

theorem DrivesWithin.now {p : Method Bool} (h : DrivesWithin c base messages p ℓ) :
    Extends base (messages.flatMap (trajectoryLines c)) ℓ :=
  Machine.wp_now (I := fun ℓ' => Extends base (messages.flatMap (trajectoryLines c)) ℓ') h

/-- The next callback goes on where the one before it ended. -/
theorem DrivesWithin.callback {p : Method Bool} (h : DrivesWithin c base messages p ℓ)
    (handler : TrajectoryHandler) (msg : JointTrajectory) :
    DrivesWithin c base (messages ++ [msg]) (trajectoryCallback c handler msg) ℓ := by
  have hlines : (messages ++ [msg]).flatMap (trajectoryLines c) =
      messages.flatMap (trajectoryLines c) ++ trajectoryLines c msg := by
    rw [List.flatMap_append, List.flatMap_singleton]
  unfold DrivesWithin
  rw [hlines]
  exact (executeTrajectory_lines handler msg).after h.now

/-- The order is kept from the plans to the wire. -/
structure InOrder (c : ℚ) (base : List (List Char)) (s : ArmCell) : Prop where
  task : Publishes s.task s.graspNode
  log : Always PublishOk s.graspNode.log
  wire : ∃ taken, (taken ++ s.topic.held).Sublist (publications s.graspNode.log) ∧
    DrivesWithin c base taken s.driving (completeLines s.client.sends)

theorem inOrder_start (regs : Nat → Nat) (detections : List ObjectInfo) (client : ClientState) :
    InOrder c (completeLines client.sends) (.start regs detections client) where
  task := main_publishes detections _
  log := trivial
  wire := ⟨[], .slnil, .refl _ _⟩

/-- What an operation adds to the log it puts on the topic. -/
theorem publications_exec {o : VisionOp} {v : VisionState} (ho : PublishNext v o)
    (x : vision.Choice o) :
    publications (vision.exec o x v).2.log =
      publications v.log ++ publishedMotions o (vision.exec o x v).1 := by
  have hnone : ∀ {log : List VisionEvent}, publications log = publications log ++ [] :=
    (List.append_nil _).symm
  cases o with
  | writeRegister address value =>
      show publications (v.writeRegister address value x).log = _
      have hnote : publications (v.noteWrite address x).log = publications v.log := by
        unfold VisionState.noteWrite
        split
        · exact (publications_cons _ _).trans (List.append_nil _)
        · rfl
      unfold VisionState.writeRegister
      dsimp only
      split
      · exact hnote.trans hnone
      · exact hnote.trans hnone
  | writeLong address value =>
      show publications (v.writeLong address value x).log = _
      unfold VisionState.writeLong
      dsimp only
      split
      · exact hnone
      · exact hnone
  | plan =>
      cases x with
      | none => exact hnone
      | some result => exact publications_cons _ _
  | publish msg =>
      cases x with
      | none => exact hnone
      | some _ => exact publications_cons _ _
  | mark e =>
      refine (publications_cons e v.log).trans ?_
      cases e with
      | published msg => exact absurd trivial ho
      | _ => rfl
  | _ => exact hnone

/-- A step of the grasp node publishes behind what is on the topic. -/
theorem InOrder.grasp (h : InOrder c base s) {o : VisionOp} {k : o.Res → Routine Unit}
    (htask : s.task = .op o k) (x : vision.Choice o) :
    InOrder c base { s with
      task := k (vision.exec o x s.graspNode).1
      graspNode := (vision.exec o x s.graspNode).2
      topic := s.topic.publish (publishedMotions o (vision.exec o x s.graspNode).1) } := by
  obtain ⟨taken, htaken, hdriving⟩ := h.wire
  have hwp := h.task
  rw [htask] at hwp
  refine ⟨hwp.2 x trivial, always_publishOk_exec h.log hwp.1 x, taken, ?_, hdriving⟩
  rw [publications_exec hwp.1 x, Topic.held_publish, ← List.append_assoc]
  exact htaken.append (List.Sublist.refl _)

/-- The end of a callback changes what is being driven, and nothing else. -/
theorem InOrder.proceed (h : InOrder c base s) {cb : Handling} {taken : List JointTrajectory}
    (htaken : (taken ++ s.topic.held).Sublist (publications s.graspNode.log))
    {rest : Method Bool} {client : ClientState}
    (hrest : DrivesWithin c base taken rest (completeLines client.sends)) :
    InOrder c base (s.proceed cb rest client) := by
  cases rest with
  | ret b => exact ⟨h.task, h.log, taken, htaken, hrest⟩
  | raise e => exact ⟨h.task, h.log, taken, htaken, hrest⟩
  | op o k => exact ⟨h.task, h.log, taken, htaken, hrest⟩

/-- A step of the driver writes within the messages it took. -/
theorem DrivesWithin.exec {o : DriverOp} {k : o.Res → Method Bool} {client : ClientState}
    (h : DrivesWithin c base messages (.op o k) (completeLines client.sends))
    (x : driver.Choice o) :
    DrivesWithin c base messages (k (driver.exec o x client).1)
      (completeLines (driver.exec o x client).2.sends) := by
  rw [completeLines_exec]
  exact h.2 (driver.exec o x client).1 trivial

/-- **Step.** By the action. -/
theorem InOrder.step (h : InOrder c base s) {a : ArmAction}
    (hstep : s.step c interval a = some t) : InOrder c base t := by
  obtain ⟨taken, htaken, hdriving⟩ := h.wire
  cases a with
  | grasp pick =>
      simp only [ArmCell.step] at hstep
      split at hstep
      · rename_i o k htask
        obtain rfl := Option.some.inj hstep
        exact h.grasp htask (pick o)
      · exact absurd hstep (by simp)
  | transport x =>
      obtain ⟨topic, hmove, rfl⟩ := Option.map_eq_some_iff.mp hstep
      have hheld := (List.Sublist.refl taken).append (Topic.held_move hmove)
      exact ⟨h.task, h.log, taken, hheld.trans htaken, hdriving⟩
  | deliver =>
      simp only [ArmCell.step] at hstep
      split at hstep
      · exact absurd hstep (by simp)
      · exact absurd hstep (by simp)
      · rename_i msg topic _ htake
        obtain rfl := Option.some.inj hstep
        refine ⟨h.task, h.log, taken ++ [msg], ?_, hdriving.callback (topicHandler interval) msg⟩
        rw [Topic.held_take htake] at htaken
        rw [List.append_assoc]
        exact htaken
  | drive pick =>
      simp only [ArmCell.step] at hstep
      split at hstep
      · rename_i cb hcb
        split at hstep
        · rename_i o k hrest
          obtain rfl := Option.some.inj hstep
          have hnow : s.driving = .op o k := by
            rw [ArmCell.driving, hcb]
            exact hrest
          rw [hnow] at hdriving
          exact h.proceed htaken (hdriving.exec (pick o))
        · exact absurd hstep (by simp)
      · exact absurd hstep (by simp)

/-- The line for a plan: that of its end point, if this has six positions. -/
def endLine (c : ℚ) (result : PlanResult) : List (List Char) :=
  (result.endPoint.toList.filter (·.positions.length = 6)).map (encodeLine c ·.positions)

/-- **Lines of plans.** For every delay and loss of messages and every pattern of
failures in both nodes, at every moment: what has been written to the robot since
the start are, as far as it is complete lines, lines of plans the grasp node made,
at most one for each plan and in the order of the plans. -/
theorem lines_of_plans (c interval : ℚ) (regs : Nat → Nat) (detections : List ObjectInfo)
    (client : ClientState) {s : ArmCell}
    (hrun : Reach (ArmCell.step c interval) (fun _ _ => True) (.start regs detections client) s) :
    ∃ w, completeLines s.client.sends = completeLines client.sends ++ w ∧
      w.Sublist ((plansMade s.graspNode.log).flatMap (endLine c)) ∧
      ∀ result, (endLine c result).length ≤ 1 := by
  have h : InOrder c (completeLines client.sends) s :=
    hrun.invariant (inOrder_start regs detections client) fun _ _ _ h _ hstep => h.step hstep
  obtain ⟨taken, htaken, hdriving⟩ := h.wire
  obtain ⟨w, hw, hlines⟩ := hdriving.now
  refine ⟨w, hw, hlines.trans ?_, fun result => ?_⟩
  · have hpublished : taken.Sublist (publications s.graspNode.log) :=
      (List.sublist_append_left _ _).trans htaken
    have hplans := (hpublished.map (·.points)).trans (publications_sublist h.log)
    have hall := hplans.flatMap fun points : List JointTrajectoryPoint =>
      (points.filter (·.positions.length = 6)).map (encodeLine c ·.positions)
    rw [List.flatMap_map, List.flatMap_map] at hall
    exact hall
  · unfold endLine
    cases result.endPoint with
    | none => simp
    | some last =>
        have hfilter := List.length_filter_le
          (fun p : JointTrajectoryPoint => decide (p.positions.length = 6)) [last]
        simpa using hfilter

/-- `lines_of_plans` where both motions are executed: two lines for two plans. -/
theorem lines_of_plans_promptly :
    (completeLines promptly.client.sends).length = 2 ∧
      ∃ w, completeLines promptly.client.sends = completeLines started.sends ++ w ∧
        w.Sublist ((plansMade promptly.graspNode.log).flatMap (endLine 57)) ∧
        ∀ result, (endLine 57 result).length ≤ 1 :=
  ⟨by decide +kernel, lines_of_plans 57 0.05 (fun _ => 0) [bottle] started (armAfter_reach _)⟩

end HakRobot.Cell
