import HakRobot.Grab.GripperCommands
import HakRobot.Grab.Walk
import HakRobot.Proc.Trace
import Mathlib.Tactic.Linarith
import Mathlib.Tactic.NormNum

/-!
# Waiting for a motion to end

Nothing tells the grasp node that the gripper or the arm has arrived: it sleeps.
Over a whole run: between the start of a motion and the next call on the gripper or
on MoveIt the time of that motion has been slept, unless a call raised in between.

* `main_settles` — every function keeps this, whatever fails;
* `motion_settled` — the sleep between the two calls, read off the events.
-/

namespace HakRobot.Grab

open HakRobot.Geometry HakRobot.Proc

/-! ## The time that is left -/

/-- The time the gripper is given for a motion to `position`. -/
def moveTime (position : Nat) : ℚ := if position = GRIPPER_CLOSE_POSITION then 4 else 2

/-- The seconds that are left of the last motion, whether a call has raised since it
started, and the position the gripper was told last. -/
structure Settling where
  left : ℚ
  raised : Bool
  position : Nat

/-- The call raised. -/
def Raised : (o : VisionOp) → o.Res → Bool
  | .writeRegister _ _, .error _ | .writeLong _ _, .error _ | .rospySleep _, .error _
  | .openInstrument, .error _ | .timeNow, .error _ | .getCurrentPose, .error _
  | .setStartStateToCurrentState, .error _ | .setPoseTarget _, .error _
  | .setJointValueTarget _, .error _ | .plan, .error _ | .clearPoseTargets, .error _
  | .execute _, .error _ | .publish _, .error _ | .initMoveIt, .error _
  | .waitForMessage, .error _ => true
  | _, _ => false

/-- The time after an operation, from its answer. A motion starts when the gripper is
triggered and when a message is published. -/
def Settling.next (p : Settling) (o : VisionOp) (r : o.Res) : Settling :=
  match o, r with
  | .writeLong _ position, .ok _ => { p with position := position }
  | .writeRegister address _, .ok _ =>
      if address = MOTION_TRIGGER then ⟨moveTime p.position, false, p.position⟩ else p
  | .publish msg, .ok _ => ⟨waitTime msg.points, false, p.position⟩
  | .rospySleep seconds, .ok _ => { p with left := p.left - seconds }
  | o, r => { p with raised := p.raised || Raised o r }

/-- The last motion has had its time, or a call has raised. -/
def Settling.Calm (p : Settling) : Prop := p.raised = false → p.left ≤ 0

/-- A call on the gripper or on MoveIt, or a publication. -/
def Commands : VisionOp → Prop
  | .openInstrument | .writeRegister _ _ | .writeLong _ _ | .initMoveIt | .getCurrentPose
  | .setStartStateToCurrentState | .setPoseTarget _ | .setJointValueTarget _ | .plan
  | .clearPoseTargets | .execute _ | .publish _ => True
  | _ => False

instance : DecidablePred Commands
  | .openInstrument | .writeRegister _ _ | .writeLong _ _ | .initMoveIt | .getCurrentPose
  | .setStartStateToCurrentState | .setPoseTarget _ | .setJointValueTarget _ | .plan
  | .clearPoseTargets | .execute _ | .publish _ => inferInstanceAs (Decidable True)
  | .rospySleep _ | .timeNow | .waitForMessage | .readObjectMsg
  | .writeObjectMsg _ | .readIsBusy | .writeIsBusy _ | .mark _ => inferInstanceAs (Decidable False)

/-- Such a call comes only when the last motion has had its time. -/
def Settling.Allows (p : Settling) (o : VisionOp) : Prop := Commands o → p.Calm

variable {α : Type} {s : Settling}

/-- `p` waits for every motion, its own and the one before. -/
abbrev WaitsFor (p : Routine α) (Q : α → Settling → Prop) (s : Settling) : Prop :=
  (Machine.monitor visionSig Settling.next).wp (Machine.anyChoice _) Settling.Allows p Q
    (fun _ s' => s'.Calm) s

theorem Settling.calm_raised {left : ℚ} {position : Nat} :
    (⟨left, true, position⟩ : Settling).Calm := fun h => absurd h.symm Bool.false_ne_true

/-- A call that starts no motion. -/
def StartsNothing : VisionOp → Prop
  | .rospySleep seconds => 0 ≤ seconds
  | .writeRegister address _ => address ≠ MOTION_TRIGGER
  | .publish _ => False
  | _ => True

theorem StartsNothing.next {o : VisionOp} (ho : StartsNothing o) (hs : s.Calm) (r : o.Res) :
    (s.next o r).Calm := by
  unfold Settling.next
  split
  · exact hs
  · rw [if_neg ho]
    exact hs
  · exact ho.elim
  · rename_i seconds _
    intro hraised
    have hleft := hs hraised
    have hseconds : 0 ≤ seconds := ho
    show s.left - seconds ≤ 0
    linarith
  · intro hraised
    exact hs (Bool.or_eq_false_iff.mp hraised).1

theorem startsNothing_waits {p : Routine α} (hp : p.Uses StartsNothing) (hs : s.Calm) :
    WaitsFor p (fun _ s' => s'.Calm) s := by
  refine Machine.wp_of_uses (I := Settling.Calm) ?_ hp hs
  exact fun t o ht ho => ⟨fun _ => ht, fun r _ => ho.next ht r⟩

/-- Such a call first, then the rest. -/
theorem waits_after {β : Type} {p : Routine α} {f : α → Routine β} {Q : β → Settling → Prop}
    (hp : p.Uses StartsNothing) (hs : s.Calm) (hf : ∀ a s', s'.Calm → WaitsFor (f a) Q s') :
    WaitsFor (p.bind f) Q s :=
  Machine.wp_seq (startsNothing_waits hp hs) hf fun _ _ he => he

theorem does_startsNothing {o : VisionOp} (ho : StartsNothing o)
    {f : o.Res → Except PyException α} :
    ((does o).bind fun r => .ofExcept (f r) : Routine α).Uses StartsNothing :=
  ⟨ho, fun r => Prog.uses_ofExcept (f r)⟩

theorem writeRegister_startsNothing {address value : Nat} (haddress : address ≠ MOTION_TRIGGER) :
    (writeRegister address value).Uses StartsNothing :=
  ⟨haddress, fun r => Prog.uses_ofExcept r⟩

theorem rospySleep_startsNothing {seconds : ℚ} (hseconds : 0 ≤ seconds) :
    (rospySleep seconds).Uses StartsNothing :=
  ⟨hseconds, fun r => Prog.uses_ofExcept r⟩

/-- The sleep that a motion of `seconds` is followed by. -/
theorem rospySleep_waits {seconds : ℚ} {raised : Bool} {position : Nat} :
    WaitsFor (rospySleep seconds) (fun _ s' => s'.Calm) ⟨seconds, raised, position⟩ := by
  refine ⟨fun h => h.elim, fun (r : Except PyException Unit) _ => ?_⟩
  cases r with
  | error e =>
      show (⟨seconds, raised || true, position⟩ : Settling).Calm
      rw [Bool.or_true]
      exact Settling.calm_raised
  | ok _ => exact fun _ => le_of_eq (sub_self seconds)

/-! ## The gripper -/

/-- A command of the gripper and its sleep. -/
theorem gripperCommand_waits (force speed position : Nat) (hs : s.Calm) :
    WaitsFor (do gripperSetForce force; gripperSetSpeed speed; gripperMoveTo position
                 rospySleep (moveTime position) : Routine Unit) (fun _ s' => s'.Calm) s := by
  have hforce : (gripperSetForce force).Uses StartsNothing :=
    writeRegister_startsNothing (by decide)
  have hspeed : (gripperSetSpeed speed).Uses StartsNothing :=
    writeRegister_startsNothing (by decide)
  refine waits_after hforce hs fun _ s₁ h₁ => waits_after hspeed h₁ fun _ s₂ h₂ => ?_
  refine ⟨fun _ => h₂, fun (r : Except PyException Unit) _ => ?_⟩
  cases r with
  | error e =>
      show (⟨s₂.left, s₂.raised || true, s₂.position⟩ : Settling).Calm
      rw [Bool.or_true]
      exact Settling.calm_raised
  | ok _ =>
      -- the position is told, the motion starts with the next write
      refine ⟨fun _ => h₂, fun (r : Except PyException Unit) _ => ?_⟩
      cases r with
      | error e =>
          show (⟨s₂.left, s₂.raised || true, position⟩ : Settling).Calm
          rw [Bool.or_true]
          exact Settling.calm_raised
      | ok _ => exact rospySleep_waits

theorem gripperOpen_waits (hs : s.Calm) : WaitsFor gripperOpen (fun _ s' => s'.Calm) s := by
  refine ⟨fun h => h.elim, fun (_ : Unit) _ => ?_⟩
  have hmark : (s.next (.mark .gripperOpenCalled) ()).Calm :=
    StartsNothing.next (o := .mark .gripperOpenCalled) trivial hs ()
  exact gripperCommand_waits GRIPPER_FORCE_FULL GRIPPER_SPEED GRIPPER_OPEN_POSITION hmark

theorem gripperGraspGentle_waits (hs : s.Calm) :
    WaitsFor gripperGraspGentle (fun _ s' => s'.Calm) s := by
  refine ⟨fun h => h.elim, fun (_ : Unit) _ => ?_⟩
  have hmark : (s.next (.mark .graspCalled) ()).Calm :=
    StartsNothing.next (o := .mark .graspCalled) trivial hs ()
  exact gripperCommand_waits GRIPPER_FORCE_GENTLE 50 GRIPPER_CLOSE_POSITION hmark

/-! ## The arm -/

theorem publishToHkDriver_waits (plan : JointTrajectory) (hs : s.Calm) :
    WaitsFor (publishToHkDriver plan) (fun _ s' => s'.Calm) s := by
  unfold publishToHkDriver
  split
  · exact hs
  · dsimp only
    split
    · exact hs
    · refine waits_after (does_startsNothing (o := .timeNow) trivial) hs fun stamp s₁ h₁ => ?_
      refine waits_after (does_startsNothing (o := .execute plan) trivial) h₁ fun _ s₂ h₂ => ?_
      refine ⟨fun _ => h₂, fun (r : Except PyException Unit) _ => ?_⟩
      cases r with
      | error e =>
          show (⟨s₂.left, s₂.raised || true, s₂.position⟩ : Settling).Calm
          rw [Bool.or_true]
          exact Settling.calm_raised
      | ok _ =>
          let wait := waitTime (downsampleTrajectoryPoints plan.points)
          have hsleep : WaitsFor (do rospySleep wait; return true) (fun _ s' => s'.Calm)
              ⟨wait, false, s₂.position⟩ :=
            Machine.wp_seq rospySleep_waits (fun _ _ h => h) fun _ _ he => he
          exact hsleep

theorem usePlan_waits (result : PlanResult) (hs : s.Calm) :
    WaitsFor (if result.success then publishToHkDriver result.plan else return false)
      (fun _ s' => s'.Calm) s := by
  split
  · exact publishToHkDriver_waits result.plan hs
  · exact hs

theorem BetweenMotions.startsNothing {o : VisionOp} (ho : BetweenMotions o) :
    StartsNothing o := by
  cases o with
  | rospySleep seconds => exact ho
  | writeRegister _ _ => exact ho.elim
  | publish _ => exact ho.elim
  | _ => exact trivial

/-- Every function of the node waits for every motion. -/
theorem waits_compositional :
    Compositional BetweenMotions
      fun _ p => ∀ s : Settling, s.Calm → WaitsFor p (fun _ s' => s'.Calm) s where
  bind hp hf s hs := Machine.wp_seq (hp s hs) (fun a s' h => hf a s' h) fun _ _ he => he
  tryCatch hp hh s hs := Machine.wp_catch (hp s hs) fun e s' h => hh e s' h
  of_uses hp _ hs := startsNothing_waits (hp.mono fun _ ho => ho.startsNothing) hs
  gripperInit s hs := by
    refine startsNothing_waits (Prog.uses_bind ⟨trivial, fun r => Prog.uses_ofExcept r⟩
      fun _ => Prog.uses_bind (writeRegister_startsNothing (by decide)) fun _ => ?_) hs
    exact rospySleep_startsNothing (by norm_num)
  gripperOpen _ hs := gripperOpen_waits hs
  gripperGraspGentle _ hs := gripperGraspGentle_waits hs
  planToPose x y z _ s hs := by
    have hpose : getCurrentPose.Uses StartsNothing :=
      does_startsNothing (o := .getCurrentPose) trivial
    refine waits_after (p := tcpToFlange x y z) (Prog.uses_bind hpose fun _ => trivial) hs
      fun flange s₁ h₁ => ?_
    refine waits_after hpose h₁ fun currentPose s₂ h₂ => ?_
    refine waits_after (does_startsNothing (o := .setStartStateToCurrentState) trivial) h₂
      fun _ s₃ h₃ => ?_
    refine waits_after (does_startsNothing (o := .setPoseTarget _) trivial) h₃ fun _ s₄ h₄ => ?_
    refine waits_after (does_startsNothing (o := .plan) trivial) h₄ fun result s₅ h₅ => ?_
    refine waits_after (does_startsNothing (o := .clearPoseTargets) trivial) h₅ fun _ s₆ h₆ => ?_
    exact usePlan_waits result h₆
  planToJointValues jointValues s hs := by
    refine waits_after (does_startsNothing (o := .setStartStateToCurrentState) trivial) hs
      fun _ s₁ h₁ => ?_
    refine waits_after (does_startsNothing (o := .setJointValueTarget jointValues) trivial) h₁
      fun _ s₂ h₂ => ?_
    refine waits_after (does_startsNothing (o := .plan) trivial) h₂ fun result s₃ h₃ => ?_
    exact usePlan_waits result h₃

theorem main_settles (detections : List ObjectInfo) (hs : s.Calm) :
    WaitsFor (main detections) (fun _ s' => s'.Calm) s :=
  waits_compositional.main detections s hs

/-! ## The events -/

/-- The events that start a motion, with the time that it is given. -/
inductive Motion : List (Event visionSig) → ℚ → Prop
  | gripper (position : Nat) : Motion
      [⟨.writeLong POSITION_HIGH_8 position, .ok ()⟩, ⟨.writeRegister MOTION_TRIGGER 1, .ok ()⟩]
      (moveTime position)
  | arm (msg : JointTrajectory) : Motion [⟨.publish msg, .ok ()⟩] (waitTime msg.points)

/-- The seconds slept in the events. -/
def sleptIn (es : List (Event visionSig)) : ℚ :=
  (es.map fun
    | ⟨.rospySleep seconds, .ok _⟩ => seconds
    | _ => 0).sum

/-- A call that neither commands anything nor raises only lets time pass. -/
theorem phaseAfter_between {es : List (Event visionSig)}
    (hes : ∀ e ∈ es, ¬ Commands e.1 ∧ Raised e.1 e.2 = false) (p : Settling) :
    phaseAfter Settling.next p es = { p with left := p.left - sleptIn es } := by
  induction es generalizing p with
  | nil =>
      show p = { p with left := p.left - 0 }
      rw [sub_zero]
  | cons e es ih =>
      obtain ⟨o, r⟩ := e
      obtain ⟨hcommand, hraised⟩ := hes _ List.mem_cons_self
      have hrest := ih fun e he => hes e (List.mem_cons_of_mem _ he)
      rw [phaseAfter_cons, hrest]
      cases o with
      | rospySleep seconds =>
          cases (r : Except PyException Unit) with
          | error _ => cases hraised
          | ok _ => simp [Settling.next, sleptIn, sub_sub]
      | _ =>
          first
          | exact absurd trivial hcommand
          | simp_all [Settling.next, sleptIn]

/-- **Settling.** In every run of the start-up and any number of callbacks, whatever
fails: when nothing raised between the start of a motion and the next call on the
gripper or on MoveIt, the time of the motion has been slept by then. -/
theorem motion_settled {detections : List ObjectInfo} {left : Routine Unit}
    {before start between after : List (Event visionSig)} {e : Event visionSig} {wait : ℚ}
    (htrace : (main detections).Trace (before ++ (start ++ (between ++ e :: after))) left)
    (hstart : Motion start wait)
    (hbetween : ∀ e' ∈ between, ¬ Commands e'.1 ∧ Raised e'.1 e'.2 = false)
    (he : Commands e.1) : wait ≤ sleptIn between := by
  have hcalm : (⟨0, false, 0⟩ : Settling).Calm := fun _ => le_rfl
  have halong := wp_trace (main_settles detections hcalm) htrace
  have hrest := halong.append_right.append_right.append_right
  have hnow := hrest.1 he
  rw [phaseAfter_between hbetween] at hnow
  have hstarted : ∀ p : Settling, (phaseAfter Settling.next p start).raised = false ∧
      (phaseAfter Settling.next p start).left = wait := by
    intro p
    cases hstart with
    | gripper position => exact ⟨rfl, rfl⟩
    | arm msg => exact ⟨rfl, rfl⟩
  obtain ⟨hraised, hleft⟩ := hstarted (phaseAfter Settling.next ⟨0, false, 0⟩ before)
  have hslept := hnow hraised
  rw [hleft] at hslept
  linarith

/-- The node alone, for one bottle. -/
def bottlePool : Pool visionSig VisionState PyException Unit Unit :=
  ⟨.init fun _ => 0, fun _ => main [bottle]⟩

/-- Its first 38 calls: the first message is published, and the next motion begins. -/
def firstCalls : Pool.History visionSig Unit × Pool visionSig VisionState PyException Unit Unit :=
  Pool.schedule vision (List.replicate 38 ((), VisionOp.success)) bottlePool

/-- Their events. -/
def firstMoves : List (Event visionSig) := firstCalls.1.of ()

/-- `motion_settled` for the motion above the bottle. -/
theorem motion_settled_above :
    waitTime shortPlan.points ≤ sleptIn ((firstMoves.drop 34).take 3) := by
  have hrun : Pool.Run vision vision.anyChoice bottlePool firstCalls.1 firstCalls.2 :=
    Pool.schedule_run _
  have hevents : firstMoves = firstMoves.take 33 ++ ([⟨.publish shortPlan, .ok ()⟩] ++
      ((firstMoves.drop 34).take 3 ++
        [⟨.getCurrentPose, .ok ⟨⟨0, 0, 0⟩, ⟨0, 0, 0, 1⟩⟩⟩])) := by
    with_unfolding_all rfl
  have htrace : (main [bottle]).Trace firstMoves (firstCalls.2.thread ()) := hrun.trace ()
  rw [hevents] at htrace
  exact motion_settled htrace (.arm shortPlan) (by decide +kernel) trivial

end HakRobot.Grab
