import HakRobot.Grab.Task

/-!
# A walk over the functions of the grasp node

A property of routines that composes, holds of the calls between the motions and
holds of the functions that move the gripper or the arm holds of a task, of a callback
and of the main program: `Compositional.pickAndPlaceSteps`, `Compositional.main`. Only
the facts about the motions differ from one property to the next; those of a property of
the single operations are `uses_compositional`. What one operation adds to the log is
`log_exec_cases`.
-/

namespace HakRobot.Grab

open HakRobot.Geometry HakRobot.Proc

/-! ## The log -/

/-- What an operation can add to the log. -/
inductive Logs : VisionOp → VisionEvent → Prop
  | trigger (value : Nat) (setting : GripperSetting) (outcome : WriteOutcome) :
      Logs (.writeRegister MOTION_TRIGGER value) (.trigger setting outcome)
  | planned (result : PlanResult) : Logs .plan (.planned result)
  | published (msg : JointTrajectory) : Logs (.publish msg) (.published msg)
  | marked (e : VisionEvent) : Logs (.mark e) e

theorem log_exec_cases (o : VisionOp) (x : vision.Choice o) (s : VisionState) :
    (vision.exec o x s).2.log = s.log ∨ ∃ e, Logs o e ∧ (vision.exec o x s).2.log = e :: s.log := by
  cases o with
  | writeRegister address value =>
      have hlog : (s.writeRegister address value x).log = (s.noteWrite address x).log := by
        unfold VisionState.writeRegister
        dsimp only
        split <;> rfl
      by_cases htrigger : address = MOTION_TRIGGER
      · subst htrigger
        exact .inr ⟨_, .trigger value s.setting x, hlog⟩
      · have hsame : s.noteWrite address x = s := if_neg htrigger
        exact .inl (hlog.trans (congrArg VisionState.log hsame))
  | writeLong address value =>
      left
      show (s.writeLong address value x).log = s.log
      unfold VisionState.writeLong
      dsimp only
      split <;> rfl
  | plan =>
      cases x with
      | none => exact .inl rfl
      | some result => exact .inr ⟨_, .planned result, rfl⟩
  | publish msg =>
      cases x with
      | none => exact .inl rfl
      | some _ => exact .inr ⟨_, .published msg, rfl⟩
  | mark e => exact .inr ⟨e, .marked e, rfl⟩
  | _ => exact .inl rfl

/-! ## The operations of the functions -/

/-- A call of the functions that move the gripper. -/
def VisionOp.GripperCall : VisionOp → Prop
  | .openInstrument | .writeRegister _ _ | .writeLong _ _ | .rospySleep _
  | .mark .gripperOpenCalled | .mark .graspCalled => True
  | _ => False

/-- A call of `publish_to_hk_driver`. -/
def VisionOp.Publishes : VisionOp → Prop
  | .timeNow | .execute _ | .publish _ | .rospySleep _ => True
  | _ => False

/-- A call of the functions that move the arm, other than the target of a pose. -/
def VisionOp.ArmCall (o : VisionOp) : Prop :=
  match o with
  | .getCurrentPose | .setStartStateToCurrentState | .setJointValueTarget _ | .plan
  | .clearPoseTargets => True
  | o => o.Publishes

theorem gripperCommand_calls (force speed position : Nat) (seconds : ℚ) :
    (do gripperSetForce force; gripperSetSpeed speed; gripperMoveTo position
        rospySleep seconds : Routine Unit).Uses VisionOp.GripperCall := by
  have hwrite : ∀ address value, (writeRegister address value).Uses VisionOp.GripperCall :=
    fun _ _ => ⟨trivial, fun r => Prog.uses_ofExcept r⟩
  refine Prog.uses_bind (hwrite _ _) fun _ => Prog.uses_bind (hwrite _ _) fun _ => ?_
  refine Prog.uses_bind ?_ fun _ => ⟨trivial, fun r => Prog.uses_ofExcept r⟩
  exact Prog.uses_bind ⟨trivial, fun r => Prog.uses_ofExcept r⟩ fun _ => hwrite _ _

theorem gripperInit_calls : gripperInit.Uses VisionOp.GripperCall := by
  refine Prog.uses_bind ⟨trivial, fun r => Prog.uses_ofExcept r⟩ fun _ => ?_
  refine Prog.uses_bind (p := writeRegister _ _) ⟨trivial, fun r => Prog.uses_ofExcept r⟩ ?_
  intro _
  exact ⟨trivial, fun r => Prog.uses_ofExcept r⟩

theorem gripperOpen_calls : gripperOpen.Uses VisionOp.GripperCall :=
  Prog.uses_bind ⟨trivial, fun _ => trivial⟩ fun _ => gripperCommand_calls _ _ _ _

theorem gripperGraspGentle_calls : gripperGraspGentle.Uses VisionOp.GripperCall :=
  Prog.uses_bind ⟨trivial, fun _ => trivial⟩ fun _ => gripperCommand_calls _ _ _ _

theorem usePlan_publishes (result : PlanResult) :
    (if result.success then publishToHkDriver result.plan else return false :
      Routine Bool).Uses VisionOp.Publishes := by
  split
  · unfold publishToHkDriver
    split
    · exact trivial
    · dsimp only
      split
      · exact trivial
      · refine Prog.uses_bind ⟨trivial, fun r => Prog.uses_ofExcept r⟩ fun _ => ?_
        refine Prog.uses_bind ⟨trivial, fun r => Prog.uses_ofExcept r⟩ fun _ => ?_
        refine Prog.uses_bind ⟨trivial, fun r => Prog.uses_ofExcept r⟩ fun _ => ?_
        exact Prog.uses_bind ⟨trivial, fun r => Prog.uses_ofExcept r⟩ fun _ => trivial
  · exact trivial

section Arm

variable {B : VisionOp → Prop}

theorem publishes_armCall {o : VisionOp} (ho : o.Publishes) : o.ArmCall := by
  cases o with
  | timeNow => exact ho
  | execute p => exact ho
  | publish msg => exact ho
  | rospySleep seconds => exact ho
  | _ => exact ho.elim

theorem usePlan_uses (harm : ∀ o : VisionOp, o.ArmCall → B o) (result : PlanResult) :
    (if result.success then publishToHkDriver result.plan else return false :
      Routine Bool).Uses B :=
  (usePlan_publishes result).mono fun o ho => harm o (publishes_armCall ho)

/-- What `planToPose` does with the position of the flange. -/
theorem planToFlange_uses (harm : ∀ o : VisionOp, o.ArmCall → B o) {flange : Vec3 ℚ}
    (htarget : ∀ q : Quat ℚ, B (.setPoseTarget ⟨flange, q⟩)) :
    (do
      let currentPose ← getCurrentPose
      setStartStateToCurrentState
      setPoseTarget ⟨flange, currentPose.orientation⟩
      let result ← plan
      clearPoseTargets
      if result.success then publishToHkDriver result.plan else return false :
        Routine Bool).Uses B := by
  refine Prog.uses_bind (p := getCurrentPose)
    ⟨harm .getCurrentPose trivial, fun r => Prog.uses_ofExcept r⟩ fun currentPose => ?_
  refine Prog.uses_bind (p := setStartStateToCurrentState)
    ⟨harm .setStartStateToCurrentState trivial, fun r => Prog.uses_ofExcept r⟩ fun _ => ?_
  refine Prog.uses_bind (p := setPoseTarget _)
    ⟨htarget _, fun r => Prog.uses_ofExcept r⟩ fun _ => ?_
  refine Prog.uses_bind (p := plan)
    ⟨harm .plan trivial, fun r => Prog.uses_ofExcept r⟩ fun result => ?_
  exact Prog.uses_bind (p := clearPoseTargets)
    ⟨harm .clearPoseTargets trivial, fun r => Prog.uses_ofExcept r⟩
    fun _ => usePlan_uses harm result

theorem planToPose_uses (harm : ∀ o : VisionOp, o.ArmCall → B o)
    (htarget : ∀ pose, B (.setPoseTarget pose)) (x y z : ℚ) : (planToPose x y z).Uses B := by
  refine ⟨harm .getCurrentPose trivial, fun (reported : Except PyException Pose) => ?_⟩
  cases reported with
  | error e => exact trivial
  | ok reported => exact planToFlange_uses harm fun _ => htarget _

theorem planToJointValues_uses (harm : ∀ o : VisionOp, o.ArmCall → B o) (jointValues : List ℚ) :
    (planToJointValues jointValues).Uses B := by
  refine Prog.uses_bind (p := setStartStateToCurrentState)
    ⟨harm .setStartStateToCurrentState trivial, fun r => Prog.uses_ofExcept r⟩ fun _ => ?_
  refine Prog.uses_bind (p := setJointValueTarget jointValues)
    ⟨harm (.setJointValueTarget _) trivial, fun r => Prog.uses_ofExcept r⟩ fun _ => ?_
  exact Prog.uses_bind (p := plan)
    ⟨harm .plan trivial, fun r => Prog.uses_ofExcept r⟩ fun result => usePlan_uses harm result

end Arm

/-! ## The walk -/

/-- A call between the motions. -/
def BetweenMotions : VisionOp → Prop
  | .rospySleep seconds => 0 ≤ seconds
  | .mark (.planned _) | .mark (.published _) => False
  | .mark _ | .initMoveIt | .waitForMessage | .readObjectMsg | .writeObjectMsg _ | .readIsBusy
  | .writeIsBusy _ => True
  | _ => False

/-- The property `D` composes, and holds of programs of calls in `B` and of the functions
that move the gripper or the arm, if `B` has the request of that motion. -/
structure Compositional (B : VisionOp → Prop) (D : ∀ α : Type, Routine α → Prop) : Prop where
  bind : ∀ {α β : Type} {p : Routine α} {f : α → Routine β},
    D α p → (∀ a, D β (f a)) → D β (p.bind f)
  tryCatch : ∀ {α : Type} {p : Routine α} {h : PyException → Routine α},
    D α p → (∀ e, D α (h e)) → D α (p.tryCatch h)
  of_uses : ∀ {α : Type} {p : Routine α}, p.Uses B → D α p
  gripperInit : D Unit gripperInit
  gripperOpen : D Unit gripperOpen
  gripperGraspGentle : D Unit gripperGraspGentle
  planToPose : ∀ x y z, B (.mark (.motionRequested (.pose x y z))) → D Bool (planToPose x y z)
  planToJointValues : ∀ jointValues, D Bool (planToJointValues jointValues)

/-- For a property of the single operations. -/
theorem uses_compositional {B : VisionOp → Prop} (hgripper : ∀ o : VisionOp, o.GripperCall → B o)
    (harm : ∀ o : VisionOp, o.ArmCall → B o) (htarget : ∀ pose, B (.setPoseTarget pose)) :
    Compositional B fun _ p => p.Uses B where
  bind hp hf := Prog.uses_bind hp hf
  tryCatch hp hh := Prog.uses_tryCatch hp hh
  of_uses hp := hp
  gripperInit := gripperInit_calls.mono hgripper
  gripperOpen := gripperOpen_calls.mono hgripper
  gripperGraspGentle := gripperGraspGentle_calls.mono hgripper
  planToPose x y z _ := planToPose_uses harm htarget x y z
  planToJointValues := planToJointValues_uses harm

/-- `B` has the calls of the steps of a task at `base`. -/
structure StepCalls (B : VisionOp → Prop) (base : Vec3 ℚ) : Prop where
  sleep : B (.rospySleep 1)
  approach : B (.mark (.motionRequested (.pose base.x base.y (base.z + GRASP_APPROACH_Z))))
  down : B (.mark (.motionRequested (.pose base.x base.y (base.z + GRASP_DOWN_Z))))
  home : B (.mark (.motionRequested (.joints READY_JOINT_VALUES)))
  returned : ∀ m b, B (.mark (.motionReturned m b))

/-- `B` has the calls of a callback with `data`. -/
structure CallbackCalls (B : VisionOp → Prop) (data : ObjectInfo) : Prop where
  entered : B (.mark (.callback data))
  readObjectMsg : B .readObjectMsg
  readIsBusy : B .readIsBusy
  writeIsBusy : ∀ b, B (.writeIsBusy b)
  started : B (.mark (.taskStarted (convertCameraToBase data.x data.y data.z)))
  raised : B (.mark .taskRaised)
  returned : ∀ b, B (.mark (.taskReturned b))
  steps : StepCalls B (convertCameraToBase data.x data.y data.z)

theorem betweenMotions_steps (base : Vec3 ℚ) : StepCalls BetweenMotions base :=
  ⟨zero_le_one, trivial, trivial, trivial, fun _ _ => trivial⟩

theorem betweenMotions_callback (data : ObjectInfo) : CallbackCalls BetweenMotions data :=
  ⟨trivial, trivial, trivial, fun _ => trivial, trivial, trivial, fun _ => trivial,
    betweenMotions_steps _⟩

namespace Compositional

variable {B : VisionOp → Prop} {D : ∀ α : Type, Routine α → Prop} {α : Type}

theorem ret (hD : Compositional B D) (a : α) : D α (.ret a) := hD.of_uses (Prog.uses_ret a)

theorem raise (hD : Compositional B D) (e : PyException) : D α (.raise e) :=
  hD.of_uses (Prog.uses_raise e)

/-- One call. -/
theorem does (hD : Compositional B D) {o : VisionOp} (ho : B o) : D o.Res (Grab.does o) :=
  hD.of_uses ⟨ho, fun _ => trivial⟩

/-- One call that can raise. -/
theorem call (hD : Compositional B D) {o : VisionOp} (ho : B o)
    {f : o.Res → Except PyException α} : D α ((Grab.does o).bind fun r => .ofExcept (f r)) :=
  hD.of_uses ⟨ho, fun r => Prog.uses_ofExcept (f r)⟩

theorem tryFinally (hD : Compositional B D) {p : Routine α} {q : Routine Unit} (hp : D α p)
    (hq : D Unit q) : D α (p.tryFinally q) := by
  refine hD.bind (hD.tryCatch hp fun e => hD.bind hq fun _ => hD.raise e) fun a => ?_
  exact hD.bind hq fun _ => hD.ret a

theorem countdown (hD : Compositional B D) (hsleep : B (.rospySleep 1)) (n : Nat) :
    D Unit (Grab.countdown n) := by
  induction n with
  | zero => exact hD.ret ()
  | succ n ih => exact hD.bind (hD.call hsleep) fun _ => ih

theorem motion (hD : Compositional B D) {m : ArmMotion}
    (hrequested : B (.mark (.motionRequested m)))
    (hreturned : ∀ b, B (.mark (.motionReturned m b))) {body : Routine Bool}
    (hbody : D Bool body) : D Bool (Grab.motion m body) := by
  refine hD.bind (hD.does hrequested) fun _ => hD.bind hbody fun b => ?_
  exact hD.bind (hD.does (hreturned b)) fun _ => hD.ret b

theorem pickAndPlaceSteps (hD : Compositional B D) {base : Vec3 ℚ} (hB : StepCalls B base) :
    D Bool (Grab.pickAndPlaceSteps base) := by
  have hmove : ∀ {x y z}, B (.mark (.motionRequested (.pose x y z))) →
      D Bool (moveToPoseJointSpace x y z) :=
    fun hrequest => hD.motion hrequest (hB.returned _) (hD.planToPose _ _ _ hrequest)
  refine hD.bind hD.gripperOpen fun _ => hD.bind (hmove hB.approach) fun approached => ?_
  split
  · exact hD.ret false
  refine hD.bind (hmove hB.down) fun descended => ?_
  split
  · exact hD.ret false
  refine hD.bind (hD.countdown hB.sleep 5) fun _ => hD.bind hD.gripperGraspGentle fun _ => ?_
  refine hD.bind (hD.motion hB.home (hB.returned _) (hD.planToJointValues _)) fun _ => ?_
  refine hD.bind (hD.countdown hB.sleep 30) fun _ => hD.bind hD.gripperOpen fun _ => ?_
  exact hD.ret true

theorem pickAndPlaceTask (hD : Compositional B D) {data : ObjectInfo} (hB : CallbackCalls B data) :
    D Bool (Grab.pickAndPlaceTask (convertCameraToBase data.x data.y data.z)) := by
  refine hD.bind (hD.does hB.started) fun _ => ?_
  refine hD.bind (hD.tryCatch (hD.pickAndPlaceSteps hB.steps) fun e => ?_) fun b => ?_
  · exact hD.bind (hD.does hB.raised) fun _ => hD.raise e
  · exact hD.bind (hD.does (hB.returned b)) fun _ => hD.ret b

theorem objectPoseCallback (hD : Compositional B D) {data : ObjectInfo}
    (hB : CallbackCalls B data) : D Unit (Grab.objectPoseCallback data) := by
  have hflag : ∀ b, D Unit (Grab.does (.writeIsBusy b)) := fun b => hD.does (hB.writeIsBusy b)
  have htask : D Unit (graspDetection data) := by
    unfold graspDetection
    dsimp only
    split
    · exact hflag false
    · exact hD.bind (hD.pickAndPlaceTask hB) fun _ => hD.ret ()
  refine hD.bind (hD.does hB.entered) fun _ => ?_
  refine hD.bind (hD.does hB.readObjectMsg) fun objectMsg => ?_
  split
  · exact hD.ret ()
  refine hD.bind (hD.does hB.readIsBusy) fun isBusy => ?_
  split
  · exact hD.ret ()
  split
  · exact hD.ret ()
  refine hD.bind (hflag true) fun _ => hD.tryFinally (hD.tryCatch htask fun e => ?_) (hflag false)
  split
  · exact hD.raise e
  · exact hD.ret ()

theorem startUp (hD : Compositional BetweenMotions D) : D Unit Grab.startUp := by
  have hexit : ∀ {p : Routine Unit}, D Unit p → D Unit (orExit p) :=
    fun hp => hD.tryCatch hp fun _ => hD.raise _
  refine hD.bind (hexit (hD.bind hD.gripperInit fun _ => hD.gripperOpen)) fun _ => ?_
  refine hD.bind (hexit (hD.call (o := .initMoveIt) trivial)) fun _ => ?_
  refine hD.bind (hD.call (o := .rospySleep 1) zero_le_one) fun _ => ?_
  refine hD.bind (hD.call (o := .waitForMessage) trivial) fun data => ?_
  exact hD.does (o := .writeObjectMsg data) trivial

/-- See the module docstring. -/
theorem main (hD : Compositional BetweenMotions D) (detections : List ObjectInfo) :
    D Unit (Grab.main detections) := by
  have hcallbacks : D Unit (Prog.forEach Grab.objectPoseCallback detections) := by
    induction detections with
    | nil => exact hD.ret ()
    | cons data rest ih =>
        exact hD.bind (hD.objectPoseCallback (betweenMotions_callback data)) fun _ => ih
  exact hD.bind hD.startUp fun _ => hcallbacks

end Compositional

end HakRobot.Grab
