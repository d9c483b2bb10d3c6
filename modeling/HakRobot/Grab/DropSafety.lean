import HakRobot.Grab.GripperCommands

/-!
# Nothing is dropped on the way

That the gripper holds an object is stored nowhere. Step 6 carries it to the
zero position and does not look at the result; an exception while it is carried
is logged, and the next detection starts with an opening. So the gripper opens
safely exactly as long as nothing goes wrong between the grasp and the return of
Step 6.

* `carry_spec` — while nothing fails, the motion of Step 6 returns `True`;
* `drop_safety` — in every run in which nothing fails while an object is
  carried, the gripper is opened at the zero position only, and a task that
  returned `True` made its three motions.
-/

namespace HakRobot.Grab

open HakRobot.Geometry HakRobot.Proc

/-! ## What the log says about the object -/

/-- The last trigger the gripper received was a gentle grasp. -/
def holding : List VisionEvent → Bool
  | [] => false
  | .trigger setting outcome :: past =>
      if outcome.applied then setting = gentleSetting else holding past
  | _ :: past => holding past

/-- Since that trigger the last motion requested was the one to the zero
position, and it returned `True`. -/
def homed : List VisionEvent → Bool
  | [] => false
  | .trigger _ outcome :: past => !outcome.applied && homed past
  | .motionReturned m b :: _ => m = .joints READY_JOINT_VALUES && b
  | .motionRequested _ :: _ => false
  | _ :: past => homed past

/-- The object is held, and no motion has returned since the grasp. -/
def carrying : List VisionEvent → Bool
  | [] => false
  | .trigger setting outcome :: past =>
      if outcome.applied then setting = gentleSetting else carrying past
  | .motionReturned _ _ :: _ => false
  | _ :: past => carrying past

/-- The motions of the task in progress were its three, and all returned
`True`. -/
def AllReturned (past : List VisionEvent) : Prop :=
  match lastTask past with
  | none => False
  | some base =>
      motionEvents (past.takeWhile fun | .taskStarted _ => false | _ => true) =
        [.motionReturned (.joints READY_JOINT_VALUES) true,
          .motionRequested (.joints READY_JOINT_VALUES),
          .motionReturned (descendMotion base) true, .motionRequested (descendMotion base),
          .motionReturned (approachMotion base) true, .motionRequested (approachMotion base)]

instance (past : List VisionEvent) : Decidable (AllReturned past) := by
  unfold AllReturned
  split <;> infer_instance

/-- The gripper is opened only over the zero position, and `True` stands for
three motions. -/
def DropOk : VisionEvent → List VisionEvent → Prop
  | .gripperOpenCalled, past => holding past = true → homed past = true
  | .taskReturned true, past => AllReturned past
  | _, _ => True

instance (e : VisionEvent) (past : List VisionEvent) : Decidable (DropOk e past) := by
  unfold DropOk
  split <;> infer_instance

theorem DropOk.neutral (e : VisionEvent) (past : List VisionEvent) (he : e.Neutral) :
    DropOk e past := by
  cases e with
  | gripperOpenCalled => exact he.elim
  | taskReturned _ => exact he.elim
  | _ => exact trivial

/-- What holds between two callbacks. -/
def Settled (log : List VisionEvent) : Prop := holding log = true → homed log = true

theorem Settled.of_not_holding {log : List VisionEvent} (h : holding log = false) :
    Settled log := fun hh => absurd (h.symm.trans hh) Bool.false_ne_true

theorem openSetting_ne_gentle : openSetting ≠ gentleSetting := by decide

/-- An opening that the gripper received lets go. -/
theorem holding_open {outcome : WriteOutcome} (h : outcome.applied = true)
    (log : List VisionEvent) : holding (.trigger openSetting outcome :: log) = false := by
  simp [holding, h, openSetting_ne_gentle]

/-- An opening that failed either did nothing or let go. -/
theorem CommandFailed.settled {R : vision.Rely} {seconds : ℚ} {log log' : List VisionEvent}
    (h : CommandFailed R openSetting seconds log log') (hs : Settled log) : Settled log' := by
  cases h with
  | before h => exact h ▸ hs
  | trigger t applied _ _ _ h =>
      subst h
      cases applied with
      | false => exact hs
      | true => exact .of_not_holding (holding_open rfl _)
  | wait t _ _ h =>
      subst h
      exact .of_not_holding (holding_open rfl _)

theorem holding_planning {mid log : List VisionEvent} (h : ∀ e ∈ mid, VisionEvent.Planning e) :
    holding (mid ++ log) = holding log := by
  induction mid with
  | nil => rfl
  | cons e mid ih =>
      obtain ⟨he, hrest⟩ := List.forall_mem_cons.mp h
      cases e with
      | planned _ => exact ih hrest
      | published _ => exact ih hrest
      | _ => exact he.elim

theorem MotionLog.holding_eq {m : ArmMotion} {b : Bool} {log log' : List VisionEvent}
    (h : MotionLog m b log log') : holding log' = holding log := by
  obtain ⟨_, ⟨mid, rfl, hmid, _⟩, rfl⟩ := h
  exact holding_planning hmid

theorem MotionFailed.holding_eq {m : ArmMotion} {log log' : List VisionEvent}
    (h : MotionFailed m log log') : holding log' = holding log := by
  obtain ⟨mid, rfl, hmid⟩ := h
  exact holding_planning hmid

/-! ## The condition on the outside world -/

/-- The call does not raise, and a plan is found. -/
def Smooth : (o : VisionOp) → o.Choice → Prop
  | .writeRegister _ _, x | .writeLong _ _, x => x = .ok
  | .plan, x => ∃ result, x = some result ∧ result.success = true ∧ result.plan.points ≠ []
  | .timeNow, x | .getCurrentPose, x | .waitForMessage, x => x ≠ none
  | .readObjectMsg, _ | .readIsBusy, _ | .writeObjectMsg _, _ | .writeIsBusy _, _
  | .mark _, _ => True
  | .openInstrument, x | .rospySleep _, x | .setStartStateToCurrentState, x
  | .setPoseTarget _, x | .setJointValueTarget _, x | .clearPoseTargets, x | .execute _, x
  | .publish _, x | .initMoveIt, x => x ≠ none

/-- A write to the trigger raises after the gripper received it. -/
def LateFailure : (o : VisionOp) → o.Choice → Prop
  | .writeRegister address _, x => address = MOTION_TRIGGER ∧ x = .raised true
  | _, _ => False

/-- Nothing goes wrong while an object is carried, and the gripper does not
close in a call that raises. -/
def carefully : vision.Rely := fun s o x =>
  (carrying s.log = true → Smooth o x) ∧ (s.setting = gentleSetting → ¬ LateFailure o x)

/-! ## Step 6 -/

section Carry

variable {α : Type} {s : VisionState}

/-- A silent call returns while an object is carried. -/
theorem smooth_call {o : VisionOp} (f : o.Res → Except PyException α)
    (hs : Always DropOk s.log) (hc : carrying s.log = true) (ho : Silent o)
    (hcall : ∀ x, Smooth o x → ∃ a, f (vision.exec o x s).1 = .ok a) :
    Safe carefully DropOk ((does o).bind fun r => .ofExcept (f r))
      (fun _ s' => s'.log = s.log) (fun _ => False) s := by
  refine ⟨hs, fun x hx => ?_⟩
  obtain ⟨a, ha⟩ := hcall x (hx.1 hc)
  have hlog := ho.log_eq x s
  show vision.wp carefully _ (Prog.ofExcept (f (vision.exec o x s).1)) _ _ _
  rw [ha]
  exact ⟨hlog ▸ hs, hlog⟩

theorem ne_none_ok {α : Type} {x : Option α} (h : x ≠ none) : ∃ a, called x = .ok a := by
  obtain ⟨a, rfl⟩ := Option.ne_none_iff_exists'.mp h
  exact ⟨a, rfl⟩

/-- While nothing fails, a plan with a point is published. -/
theorem publish_carrying {plan : JointTrajectory} (hne : plan.points ≠ [])
    (hs : Always DropOk s.log) (hc : carrying s.log = true) :
    Safe carefully DropOk (publishToHkDriver plan)
      (fun b s' => b = true ∧ ∃ msg, s'.log = .published msg :: s.log) (fun _ => False) s := by
  have hpoints : plan.points.length ≠ 0 := by simpa using hne
  have hsampled : (downsampleTrajectoryPoints plan.points).length ≠ 0 := by
    obtain ⟨last, hlast⟩ := Option.ne_none_iff_exists'.mp
      (mt List.getLast?_eq_none_iff.mp hne)
    simp [downsampleTrajectoryPoints, hlast]
  unfold publishToHkDriver
  rw [if_neg hpoints]
  dsimp only
  rw [if_neg hsampled]
  refine Safe.seq (smooth_call (o := .timeNow) id hs hc trivial fun _ hx => ne_none_ok hx) ?_
    fun _ h => h
  intro stamp s₁ hs₁ hlog₁
  refine Safe.seq (smooth_call (o := .execute _) id hs₁ (hlog₁ ▸ hc) trivial
    fun _ hx => ne_none_ok hx) ?_ fun _ h => h
  intro _ s₂ hs₂ hlog₂
  rw [hlog₁] at hlog₂
  have hc₂ : carrying s₂.log = true := hlog₂ ▸ hc
  refine Safe.seq (P := fun _ s' => ∃ msg, s'.log = .published msg :: s₂.log)
    (F := fun _ => False) ?_ ?_ fun _ h => h
  · refine ⟨hs₂, fun (x : Option Unit) hx => ?_⟩
    cases x with
    | none => exact absurd rfl (hx.1 hc₂)
    | some _ => exact ⟨⟨trivial, hs₂⟩, _, rfl⟩
  · intro _ s₃ hs₃ hpost
    rcases hpost with ⟨msg, hlog₃⟩
    have hc₃ : carrying s₃.log = true := by
      rw [hlog₃]
      exact hc₂
    refine Safe.seq (smooth_call (o := .rospySleep _) id hs₃ hc₃ trivial
      fun _ hx => ne_none_ok hx) ?_ fun _ h => h
    intro _ s₄ hs₄ hlog₄
    exact ⟨hs₄, rfl, msg, by rw [hlog₄, hlog₃, hlog₂]⟩

/-- While nothing fails, the body of Step 6 returns `True`. -/
theorem planToJointValues_carrying (jointValues : List ℚ) (hs : Always DropOk s.log)
    (hc : carrying s.log = true) :
    Safe carefully DropOk (planToJointValues jointValues)
      (fun b s' => b = true ∧ ∃ result msg,
        s'.log = .published msg :: .planned result :: s.log) (fun _ => False) s := by
  refine Safe.seq (smooth_call (o := .setStartStateToCurrentState) id hs hc trivial
    fun _ hx => ne_none_ok hx) ?_ fun _ h => h
  intro _ s₁ hs₁ hlog₁
  refine Safe.seq (smooth_call (o := .setJointValueTarget _) id hs₁ (hlog₁ ▸ hc) trivial
    fun _ hx => ne_none_ok hx) ?_ fun _ h => h
  intro _ s₂ hs₂ hlog₂
  rw [hlog₁] at hlog₂
  have hc₂ : carrying s₂.log = true := hlog₂ ▸ hc
  refine Safe.seq (P := fun result s' => s'.log = .planned result :: s₂.log ∧
    result.success = true ∧ result.plan.points ≠ []) (F := fun _ => False) ?_ ?_ fun _ h => h
  · refine ⟨hs₂, fun (x : Option PlanResult) hx => ?_⟩
    obtain ⟨result, rfl, hsuccess, hne⟩ := hx.1 hc₂
    exact ⟨⟨trivial, hs₂⟩, rfl, hsuccess, hne⟩
  · intro result s₃ hs₃ hpost
    rcases hpost with ⟨hlog₃, hsuccess, hne⟩
    rw [if_pos hsuccess]
    have hc₃ : carrying s₃.log = true := by
      rw [hlog₃]
      exact hc₂
    refine Safe.mono (publish_carrying hne hs₃ hc₃) ?_ fun _ h => h
    intro b s₄ hpost
    rcases hpost with ⟨hb, msg, hlog₄⟩
    exact ⟨hb, result, msg, by rw [hlog₄, hlog₃, hlog₂]⟩

/-- **Step 6.** While nothing fails, the object is brought to the zero
position. -/
theorem carry_spec (jointValues : List ℚ) (hs : Always DropOk s.log)
    (hc : carrying s.log = true) :
    Safe carefully DropOk (moveToJointValues jointValues)
      (fun _ s' => ∃ result msg, s'.log = .motionReturned (.joints jointValues) true ::
        .published msg :: .planned result :: .motionRequested (.joints jointValues) :: s.log)
      (fun _ => False) s := by
  refine Safe.seq (mark_spec hs trivial) ?_ fun _ h => h
  intro _ s₁ hs₁ hlog₁
  have hc₁ : carrying s₁.log = true := by
    rw [hlog₁]
    exact hc
  refine Safe.seq (planToJointValues_carrying jointValues hs₁ hc₁) ?_ fun _ h => h
  intro _ s₂ hs₂ hpost
  rcases hpost with ⟨rfl, result, msg, hlog₂⟩
  refine Safe.seq (mark_spec hs₂ trivial) ?_ fun _ h => h
  intro _ s₃ hs₃ hlog₃
  exact ⟨hs₃, result, msg, by rw [hlog₃, hlog₂, hlog₁]⟩

end Carry

/-- A grasp that failed has not closed the gripper. -/
theorem CommandFailed.not_closed {log log' : List VisionEvent}
    (h : CommandFailed carefully gentleSetting 4 log log') (hlog : holding log = false) :
    holding log' = false := by
  cases h with
  | before h => exact h ▸ hlog
  | trigger t applied _ hset hR h =>
      subst h
      cases applied with
      | false => exact hlog
      | true => exact absurd ⟨rfl, rfl⟩ (hR.2 hset)
  | wait t ht hR h =>
      have hc : carrying t.log = true := by
        rw [ht, h]
        rfl
      exact absurd rfl (hR.1 hc)

/-! ## The task -/

/-- The steps end with nothing in the gripper, or over the zero position. -/
theorem pickAndPlaceSteps_settled {base : Vec3 ℚ} {L : List VisionEvent} {s : VisionState}
    (hs : Always DropOk s.log) (hlog : s.log = .taskStarted base :: L)
    (hsettled : Settled s.log) :
    Safe carefully DropOk (pickAndPlaceSteps base)
      (fun b s' => Settled s'.log ∧ (b = true → AllReturned s'.log))
      (fun s' => Settled s'.log) s := by
  refine Safe.seq (gripperOpen_spec hs hsettled fun _ => trivial) ?_ fun _ h => h.settled hsettled
  intro _ s₂ hs₂ hlog₂
  have hopen : holding s₂.log = false := by
    rw [hlog₂]
    exact holding_open rfl _
  refine Safe.seq (moveToPoseJointSpace_spec DropOk.neutral _ _ _ hs₂) ?_ fun _ h =>
    .of_not_holding (h.holding_eq.trans hopen)
  intro b₁ s₃ hs₃ hlog₃
  have hopen₃ : holding s₃.log = false := hlog₃.holding_eq.trans hopen
  cases b₁ with
  | false => exact ⟨hs₃, .of_not_holding hopen₃, fun hb => absurd hb Bool.false_ne_true⟩
  | true =>
      obtain ⟨r₁, msg₁, _, hlog₃⟩ := hlog₃.of_true
      refine Safe.seq (moveToPoseJointSpace_spec DropOk.neutral _ _ _ hs₃) ?_ fun _ h =>
        .of_not_holding (h.holding_eq.trans hopen₃)
      intro b₂ s₄ hs₄ hlog₄
      have hopen₄ : holding s₄.log = false := hlog₄.holding_eq.trans hopen₃
      cases b₂ with
      | false => exact ⟨hs₄, .of_not_holding hopen₄, fun hb => absurd hb Bool.false_ne_true⟩
      | true =>
          obtain ⟨r₂, msg₂, _, hlog₄⟩ := hlog₄.of_true
          refine Safe.seq (silent_spec (countdown_silent 5) hs₄) ?_ fun _ h =>
            .of_not_holding (h ▸ hopen₄)
          intro _ s₅ hs₅ hlog₅
          have hopen₅ : holding (.graspCalled :: s₅.log) = false := by
            rw [hlog₅]
            exact hopen₄
          refine Safe.seq (gripperGraspGentle_spec hs₅ trivial fun _ => trivial) ?_ fun _ h =>
            .of_not_holding (h.not_closed hopen₅)
          intro _ s₆ hs₆ hlog₆
          have hcarrying : carrying s₆.log = true := by
            rw [hlog₆]
            rfl
          -- Step 6 cannot fail while the object is carried
          refine Safe.seq (carry_spec READY_JOINT_VALUES hs₆ hcarrying) ?_ fun _ h => h.elim
          intro _ s₇ hs₇ hpost
          rcases hpost with ⟨r₃, msg₃, hlog₇⟩
          -- from here on the arm stays over the zero position
          have hhome : homed s₇.log = true := by
            rw [hlog₇]
            rfl
          refine Safe.seq (silent_spec (countdown_silent 30) hs₇) ?_ fun _ h _ => h ▸ hhome
          intro _ s₈ hs₈ hlog₈
          have hhome₈ : Settled s₈.log := fun _ => hlog₈ ▸ hhome
          refine Safe.seq (gripperOpen_spec hs₈ hhome₈ fun _ => trivial) ?_ fun _ h =>
            h.settled hhome₈
          intro _ s₉ hs₉ hlog₉
          refine ⟨hs₉, .of_not_holding (hlog₉ ▸ holding_open rfl _), fun _ => ?_⟩
          rw [hlog₉, hlog₈, hlog₇, hlog₆, hlog₅, hlog₄, hlog₃, hlog₂, hlog]
          rfl

theorem pickAndPlaceTask_settled (base : Vec3 ℚ) {s : VisionState} (hs : Always DropOk s.log)
    (hsettled : Settled s.log) :
    Safe carefully DropOk (pickAndPlaceTask base) (fun _ s' => Settled s'.log)
      (fun s' => Settled s'.log) s := by
  refine Safe.mono (pickAndPlaceTask_spec DropOk.neutral base
    (P := fun b log => Settled log ∧ (b = true → AllReturned log)) (F := Settled) hs ?_ ?_) ?_ ?_
  · intro s' hs' hlog
    have hsettled' : Settled s'.log := by
      rw [hlog]
      exact hsettled
    exact pickAndPlaceSteps_settled hs' hlog hsettled'
  · intro b log hpost
    rcases hpost with ⟨_, hall⟩
    cases b with
    | false => exact trivial
    | true => exact hall rfl
  · intro _ s' hpost
    rcases hpost with ⟨log, ⟨h, _⟩, hlog⟩
    rw [hlog]
    exact h
  · intro s' hpost
    rcases hpost with ⟨log, h, hlog⟩
    rw [hlog]
    exact h

theorem main_dropOk (regs : Nat → Nat) (detections : List ObjectInfo) :
    Safe carefully DropOk (main detections) (fun _ _ => True) (fun _ => True) (.init regs) := by
  refine main_spec (I := Settled) regs (fun h => absurd h Bool.false_ne_true) (fun _ => trivial)
    (.of_not_holding (holding_open rfl _)) ?_ detections
  intro data s hs hsettled
  refine objectPoseCallback_spec DropOk.neutral data hs hsettled ?_
  intro s' hs' hlog _ _
  refine pickAndPlaceTask_settled _ hs' ?_
  rw [hlog]
  exact hsettled

/-- **Drop safety.** In every run of the start-up and any number of callbacks in
which no call raises and no planning fails while an object is carried: the
gripper is opened over an object only after the move to the zero position has
returned `True`, and a task returns `True` only when its three motions did. -/
theorem drop_safety (regs : Nat → Nat) (detections : List ObjectInfo)
    {d : Routine Unit × VisionState}
    (hrun : vision.Steps carefully (main detections, .init regs) d) :
    Always DropOk d.2.log :=
  Machine.wp_invariant (I := fun s : VisionState => Always DropOk s.log)
    (Machine.wp_mono (fun _ _ h => h.1) (fun _ _ h => h.1) (main_dropOk regs detections)) hrun

/-- `drop_safety` for one bottle and no failure. -/
theorem drop_safety_oneBottle : Always DropOk oneBottle.2.log := by
  have hcareful : ∀ s (o : VisionOp), carefully s o o.success := by
    intro s o
    cases o <;> simp [carefully, Smooth, LateFailure, VisionOp.success, PlanResult.success,
      PlanResult.plan, shortPlan]
  exact drop_safety (fun _ => 0) [bottle] (Machine.run_steps hcareful _ _)

/-- Every call succeeds, but no plan to the zero position is found. -/
def noWayHome (s : VisionState) : (o : VisionOp) → o.Choice
  | .plan => some (.tuple (!carrying s.log) shortPlan)
  | o => o.success

/-- One bottle, and no plan for Step 6. -/
def droppedBottle : Except PyException Unit × VisionState :=
  vision.run noWayHome (main [bottle]) (.init fun _ => 0)

theorem droppedBottle_steps :
    vision.Steps vision.anyChoice (main [bottle], .init fun _ => 0)
      (.ofExcept droppedBottle.1, droppedBottle.2) :=
  Machine.run_steps (fun _ _ => trivial) _ _

/-- Step 6 fails, and Step 8 lets go all the same. -/
theorem drops_without_way_home :
    ¬ ∀ (regs : Nat → Nat) (detections : List ObjectInfo) (d : Routine Unit × VisionState),
      vision.Steps vision.anyChoice (main detections, .init regs) d →
      Always DropOk d.2.log := by
  intro hall
  have hdrop := hall (fun _ => 0) [bottle] _ droppedBottle_steps
  revert hdrop
  decide +kernel

end HakRobot.Grab
