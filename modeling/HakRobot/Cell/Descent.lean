import HakRobot.Driver.Delivery
import HakRobot.Grab.GripperCommands
import HakRobot.Proc.Reach
import HakRobot.Proc.Topic

/-!
# The grasp node and the driver node together

The grasp node publishes the end point of a plan on `joint_path_command`, waits
for a fixed time and goes on; nothing comes back from the driver. The driver
takes the newest message when its callback is free and writes it to the robot as
far as the connection lets it.

* `descent_published` — when the gripper is closed, Step 3 has been published,
  and an execution of that message which returned `True` wrote its line, unless
  every try of that execution to send it failed;
* `descent_unconfirmed` — the driver may not have heard of Step 3 at all.
-/

namespace HakRobot.Cell

open HakRobot.Driver HakRobot.Grab HakRobot.Proc

/-- A run of `trajectory_callback` in progress. -/
structure Handling where
  msg : JointTrajectory
  /-- the calls of the client before it began -/
  before : List Send
  /-- what is left of it -/
  rest : Method Bool

/-- A run of `trajectory_callback` that returned, with its calls. -/
structure Execution where
  msg : JointTrajectory
  result : Bool
  sends : List Send

/-- Both nodes and the topic between them. -/
structure ArmCell where
  /-- what is left of the main program of the grasp node -/
  task : Routine Unit
  graspNode : VisionState
  /-- `joint_path_command` -/
  topic : Topic JointTrajectory
  handling : Option Handling
  client : ClientState
  executed : List Execution

/-- Before the first operation of the grasp node. -/
def ArmCell.start (regs : Nat → Nat) (detections : List ObjectInfo) (client : ClientState) :
    ArmCell where
  task := main detections
  graspNode := .init regs
  topic := .empty
  handling := none
  client := client
  executed := []

/-- One step of the cell. -/
inductive ArmAction
  | grasp (pick : (o : VisionOp) → o.Choice)
  | transport (x : Transport)
  | deliver
  | drive (pick : (o : DriverOp) → o.Choice)

/-- What an operation with result `r` puts on the topic. -/
def publishedMotions (o : VisionOp) (r : o.Res) : List JointTrajectory :=
  match o, r with
  | .publish msg, .ok _ => [msg]
  | _, _ => []

/-- What is left of a callback, or that it is over; `rospy` logs an exception
and drops it. -/
def ArmCell.proceed (s : ArmCell) (h : Handling) (rest : Method Bool) (client : ClientState) :
    ArmCell :=
  match rest with
  | .ret b => { s with
      handling := none
      client := client
      executed := ⟨h.msg, b, client.sends.drop h.before.length⟩ :: s.executed }
  | .raise _ => { s with
      handling := none
      client := client }
  | rest => { s with
      handling := some { h with rest := rest }
      client := client }

/-- The step function; `none` when the action is not possible. -/
def ArmCell.step (c interval : ℚ) (s : ArmCell) : ArmAction → Option ArmCell
  | .grasp pick =>
      match s.task with
      | .op o k => some { s with
          task := k (vision.exec o (pick o) s.graspNode).1
          graspNode := (vision.exec o (pick o) s.graspNode).2
          topic := s.topic.publish (publishedMotions o (vision.exec o (pick o) s.graspNode).1) }
      | _ => none
  | .transport x => (s.topic.move x).map fun topic => { s with topic := topic }
  | .deliver =>
      match s.handling, s.topic.take with
      -- the callback before this one is still running
      | some _, _ => none
      | none, none => none
      | none, some (msg, topic) => some { s with
          topic := topic
          handling := some
            ⟨msg, s.client.sends, trajectoryCallback c (topicHandler interval) msg⟩ }
  | .drive pick =>
      match s.handling with
      | some h =>
          match h.rest with
          | .op o k => some (s.proceed h (k (driver.exec o (pick o) s.client).1)
              (driver.exec o (pick o) s.client).2)
          | _ => none
      | none => none

/-! ## What both nodes only add to -/

theorem log_exec {o : VisionOp} {x : vision.Choice o} {s : VisionState} {e : VisionEvent}
    (he : e ∈ s.log) : e ∈ (vision.exec o x s).2.log := by
  cases o with
  | writeRegister address value =>
      show e ∈ (s.writeRegister address value x).log
      have hnote : e ∈ (s.noteWrite address x).log := by
        unfold VisionState.noteWrite
        split
        · exact List.mem_cons_of_mem _ he
        · exact he
      unfold VisionState.writeRegister
      dsimp only
      split
      · exact hnote
      · exact hnote
  | writeLong address value =>
      show e ∈ (s.writeLong address value x).log
      unfold VisionState.writeLong
      dsimp only
      split
      · exact he
      · exact he
  | plan =>
      cases x with
      | none => exact he
      | some result => exact List.mem_cons_of_mem _ he
  | publish msg =>
      cases x with
      | none => exact he
      | some _ => exact List.mem_cons_of_mem _ he
  | mark e' => exact List.mem_cons_of_mem _ he
  | _ => exact he

theorem publishedMotions_log {o : VisionOp} {x : vision.Choice o} {s : VisionState}
    {msg : JointTrajectory} (hmsg : msg ∈ publishedMotions o (vision.exec o x s).1) :
    .published msg ∈ (vision.exec o x s).2.log := by
  cases o with
  | publish msg' =>
      cases x with
      | none => exact absurd hmsg List.not_mem_nil
      | some _ =>
          obtain rfl := List.mem_singleton.mp hmsg
          exact List.mem_cons_self
  | _ => exact absurd hmsg List.not_mem_nil

theorem sends_exec (o : DriverOp) (x : driver.Choice o) (s : ClientState) :
    s.sends <+: (driver.exec o x s).2.sends := by
  cases o with
  | lockedSendall raw =>
      show s.sends <+: (s.sendallLocked raw x).2.sends
      unfold ClientState.sendallLocked
      split
      · exact List.prefix_append _ _
      · split
        · exact List.prefix_append _ _
        · exact List.prefix_append _ _
  | _ =>
      have hsame := exec_sends s x (by simp)
      exact ⟨[], by rw [List.append_nil, hsame]⟩

/-! ## The invariant -/

/-- What a callback in progress will have done if it returns `True`. -/
def Handling.Sound (c : ℚ) (h : Handling) (client : ClientState) : Prop :=
  driver.Ends driver.anyChoice h.rest
    (fun b t => b = true → ∃ w, t.sends = h.before ++ w ∧ Delivery c h.msg.points w)
    (fun _ _ => True) client

/-- What a callback that returned has done. -/
structure Execution.Sound (c : ℚ) (e : Execution) (client : ClientState) : Prop where
  sends : e.sends <:+: client.sends
  delivery : e.result = true → Delivery c e.msg.points e.sends

/-- The driver only handles what the grasp node published, and both nodes keep
their own promises. -/
structure Tracked (c : ℚ) (s : ArmCell) : Prop where
  task : vision.wp vision.anyChoice (fun t _ => Always TaskOk t.log) s.task
    (fun _ t => Always TaskOk t.log) (fun _ t => Always TaskOk t.log) s.graspNode
  topic : s.topic.All (.published · ∈ s.graspNode.log)
  handling : ∀ h ∈ s.handling, .published h.msg ∈ s.graspNode.log ∧ h.Sound c s.client
  executed : ∀ e ∈ s.executed, .published e.msg ∈ s.graspNode.log ∧ e.Sound c s.client

variable {c interval : ℚ} {s t : ArmCell}

theorem tracked_start (regs : Nat → Nat) (detections : List ObjectInfo) (client : ClientState) :
    Tracked c (.start regs detections client) where
  task := Machine.wp_mono (fun _ _ h => h.1) (fun _ _ h => h.1) (main_taskOk regs detections)
  topic := Topic.all_empty
  handling _ hh := absurd hh (by simp [ArmCell.start])
  executed _ he := absurd he List.not_mem_nil

/-- A callback starts with nothing sent for its message. -/
theorem handling_start (msg : JointTrajectory) (client : ClientState) :
    Handling.Sound c ⟨msg, client.sends, trajectoryCallback c (topicHandler interval) msg⟩ client :=
  Machine.wp_mono (fun _ _ h => h.2) (fun _ _ _ => trivial)
    (executeTrajectory_spec (topicHandler interval) msg client)

/-- The calls of a callback that returned are the ones since it began. -/
theorem Tracked.proceed (h : Tracked c s) {cb : Handling} {rest : Method Bool}
    {client : ClientState} (hpublished : .published cb.msg ∈ s.graspNode.log)
    (hsound : Handling.Sound c { cb with rest := rest } client)
    (hsends : s.client.sends <+: client.sends) : Tracked c (s.proceed cb rest client) := by
  have hexecuted : ∀ e ∈ s.executed, .published e.msg ∈ s.graspNode.log ∧ e.Sound c client := by
    intro e he
    obtain ⟨hpub, hpart, hdelivery⟩ := h.executed e he
    exact ⟨hpub, hpart.trans hsends.isInfix, hdelivery⟩
  cases rest with
  | ret b =>
      refine ⟨h.task, h.topic, fun _ hnone => absurd hnone (by simp [ArmCell.proceed]),
        List.forall_mem_cons.mpr ⟨⟨hpublished, ?_, fun hb => ?_⟩, hexecuted⟩⟩
      · exact (List.drop_suffix _ _).isInfix
      · -- what was appended since the callback began is what its loop delivered
        obtain ⟨w, hw, hdelivery⟩ := hsound hb
        simpa [hw] using hdelivery
  | raise e =>
      exact ⟨h.task, h.topic, fun _ hnone => absurd hnone (by simp [ArmCell.proceed]),
        hexecuted⟩
  | op o k =>
      refine ⟨h.task, h.topic, fun cb' hcb => ?_, hexecuted⟩
      obtain rfl := Option.some.inj hcb
      exact ⟨hpublished, hsound⟩

/-- One step, by the action. -/
theorem Tracked.step (h : Tracked c s) {a : ArmAction} (hstep : s.step c interval a = some t) :
    Tracked c t := by
  cases a with
  | grasp pick =>
      simp only [ArmCell.step] at hstep
      split at hstep
      · rename_i o k htask
        obtain rfl := Option.some.inj hstep
        have hwp := h.task
        rw [htask] at hwp
        refine ⟨hwp.2 _ trivial, ?_,
          fun cb hcb => ⟨log_exec (h.handling cb hcb).1, (h.handling cb hcb).2⟩,
          fun e he => ⟨log_exec (h.executed e he).1, (h.executed e he).2⟩⟩
        have htopic : s.topic.All (.published · ∈ (vision.exec o (pick o) s.graspNode).2.log) :=
          h.topic.mono fun _ hmsg => log_exec hmsg
        exact htopic.publish fun _ hmsg => publishedMotions_log hmsg
      · exact absurd hstep (by simp)
  | transport x =>
      obtain ⟨topic, hmove, rfl⟩ := Option.map_eq_some_iff.mp hstep
      exact ⟨h.task, h.topic.move hmove, h.handling, h.executed⟩
  | deliver =>
      simp only [ArmCell.step] at hstep
      split at hstep
      · exact absurd hstep (by simp)
      · exact absurd hstep (by simp)
      · rename_i msg topic _ htake
        obtain rfl := Option.some.inj hstep
        obtain ⟨hmsg, htopic⟩ := h.topic.take htake
        refine ⟨h.task, htopic, fun cb hcb => ?_, h.executed⟩
        obtain rfl := Option.some.inj hcb
        exact ⟨hmsg, handling_start msg s.client⟩
  | drive pick =>
      simp only [ArmCell.step] at hstep
      split at hstep
      · rename_i cb hcb
        split at hstep
        · rename_i o k hrest
          obtain rfl := Option.some.inj hstep
          obtain ⟨hpublished, hsound⟩ := h.handling cb hcb
          unfold Handling.Sound at hsound
          rw [hrest] at hsound
          exact h.proceed hpublished (hsound.2 _ trivial) (sends_exec o _ s.client)
        · exact absurd hstep (by simp)
      · exact absurd hstep (by simp)

/-- **Descent.** For every delay and loss of messages and every pattern of
failures in both nodes: whenever the gripper is closed in a task, the message of
that task's Step 3 has been published; and every execution of it that returned
`True` wrote the line of its point with a call of its own, unless the point does
not have six positions or the last try of that execution failed. -/
theorem descent_published (c interval : ℚ) (regs : Nat → Nat) (detections : List ObjectInfo)
    (client : ClientState) {s : ArmCell} {past : List VisionEvent}
    (hrun : Reach (ArmCell.step c interval) (fun _ _ => True) (.start regs detections client) s)
    (hcall : s.graspNode.log = .graspCalled :: past) :
    ∃ last msg, StepThree past last msg ∧ ∀ e ∈ s.executed, e.msg = msg → e.result = true →
      last.positions.length = 6 → e.sends <:+: s.client.sends ∧
        (encodeLine c last.positions ∈ completeLines e.sends ∨ Lost c last e.sends) := by
  have h : Tracked c s := Reach.invariant (tracked_start regs detections client)
    (fun _ _ _ h _ hstep => h.step hstep) hrun
  have hlog : Always TaskOk s.graspNode.log :=
    Machine.wp_now (I := fun t : VisionState => Always TaskOk t.log) h.task
  rw [hcall] at hlog
  obtain ⟨last, msg, hthree⟩ := hlog.1.2
  refine ⟨last, msg, hthree, fun e he hmsg hresult hcount => ?_⟩
  obtain ⟨_, hpart, hdelivery⟩ := h.executed e he
  have hpoints : msg.points = [last] := by
    obtain ⟨_, _, _, _, _, hpoints, _⟩ := hthree
    exact hpoints
  have hsingle : Delivery c [last] e.sends := by
    rw [← hpoints, ← hmsg]
    exact hdelivery hresult
  exact ⟨hpart, hsingle.single hcount⟩

/-! ## A driver that hears of Step 3, and one that does not -/

/-- `n` operations of the grasp node, all successful; the 54th calls
`gripper_grasp_gentle`. -/
def graspSteps (n : Nat) : List ArmAction := List.replicate n (.grasp VisionOp.success)

/-- The message arrives and is executed, and every call succeeds. -/
def executes : List ArmAction :=
  [.transport .arrive, .deliver] ++ List.replicate 7 (.drive DriverOp.success)

/-- The cell after these actions, for one bottle and a driver that has connected.
Irreducible, so that only the kernel runs it. -/
@[irreducible]
def armAfter (as : List ArmAction) : ArmCell :=
  follow (ArmCell.step 57 0.05) (.start (fun _ => 0) [bottle] started) as

theorem armAfter_reach (as : List ArmAction) :
    Reach (ArmCell.step 57 0.05) (fun _ _ => True) (.start (fun _ => 0) [bottle] started)
      (armAfter as) := by
  unfold armAfter
  exact follow_reach (meets_true as _)

/-- Both motions are executed before the gripper is closed. -/
def promptly : ArmCell :=
  armAfter (graspSteps 35 ++ executes ++ graspSteps 12 ++ executes ++ graspSteps 7)

/-- Both messages are still on their way when the gripper is closed. -/
def unheard : ArmCell := armAfter (graspSteps 54)

/-- `descent_published` for a driver that has executed both motions. -/
theorem descent_published_promptly :
    promptly.executed.length = 2 ∧
    promptly.graspNode.log = .graspCalled :: promptly.graspNode.log.tail ∧
    ∃ last msg, StepThree promptly.graspNode.log.tail last msg ∧
      ∀ e ∈ promptly.executed, e.msg = msg → e.result = true → last.positions.length = 6 →
        e.sends <:+: promptly.client.sends ∧
          (encodeLine 57 last.positions ∈ completeLines e.sends ∨ Lost 57 last e.sends) := by
  have hcall : promptly.graspNode.log = .graspCalled :: promptly.graspNode.log.tail := by
    decide +kernel
  exact ⟨by decide +kernel, hcall, descent_published 57 0.05 (fun _ => 0) [bottle] started
    (armAfter_reach _) hcall⟩

/-- The gripper is closed, and nothing at all has been written to the robot. -/
theorem descent_unconfirmed :
    ¬ ∀ (c interval : ℚ) (regs : Nat → Nat) (detections : List ObjectInfo) (client : ClientState)
      (s : ArmCell) (past : List VisionEvent),
      driver.Steps driver.anyChoice (Driver.startUp, .init) (.ret (), client) →
      Reach (ArmCell.step c interval) (fun _ _ => True) (.start regs detections client) s →
      s.graspNode.log = .graspCalled :: past →
      ∃ last msg, StepThree past last msg ∧
        encodeLine c last.positions ∈ completeLines s.client.sends := by
  intro hall
  have hstarted : driver.Steps driver.anyChoice (Driver.startUp, .init) (.ret (), started) :=
    smoothly_steps (fun _ _ => trivial) Driver.startUp .init
  have hcall : unheard.graspNode.log = .graspCalled :: unheard.graspNode.log.tail := by
    decide +kernel
  obtain ⟨last, msg, _, hline⟩ := hall 57 0.05 (fun _ => 0) [bottle] started unheard _ hstarted
    (armAfter_reach _) hcall
  have hnothing : completeLines unheard.client.sends = [] := by decide +kernel
  rw [hnothing] at hline
  exact absurd hline List.not_mem_nil

end HakRobot.Cell
