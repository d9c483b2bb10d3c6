import HakRobot.Grab.Walk

/-!
# One task per callback

A callback starts at most one task, and once a task has ended it starts no
other: `objectPoseCallback_startsOnce`, against an environment that may answer
anything.
-/

namespace HakRobot.Grab

open HakRobot.Geometry HakRobot.Proc

/-- `pick_and_place_task` is entered. -/
def VisionOp.startsTask : VisionOp → Bool
  | .mark (.taskStarted _) => true
  | _ => false

/-- `pick_and_place_task` is left. -/
def VisionOp.endsTask : VisionOp → Bool
  | .mark (.taskReturned _) | .mark .taskRaised => true
  | _ => false

/-- A task of the callback has ended. -/
def hasEnded (ended : Bool) (o : VisionOp) (_ : o.Res) : Bool := ended || o.endsTask

/-- No task starts after one has ended. -/
def StartsFirst (ended : Bool) (o : VisionOp) : Prop := o.startsTask = true → ended = false

/-- `p` starts no task after one has ended; `ended` says whether one has. -/
abbrev StartsOnce (p : Routine Unit) (ended : Bool) : Prop :=
  (Machine.monitor visionSig hasEnded).wp (Machine.anyChoice _) StartsFirst p
    (fun _ _ => True) (fun _ _ => True) ended

/-- The operation starts no task. -/
abbrev NoStart (o : VisionOp) : Prop := o.startsTask = false

/-- An operation of the steps of a task: none that starts or ends a task or a
callback, and none on the global variables. -/
def VisionOp.TaskStep : VisionOp → Prop
  | .mark (.callback _) | .mark (.taskStarted _) | .mark (.taskReturned _) | .mark .taskRaised
  | .readObjectMsg | .writeObjectMsg _ | .readIsBusy | .writeIsBusy _ => False
  | _ => True

theorem VisionOp.TaskStep.noStart {o : VisionOp} (h : o.TaskStep) : NoStart o := by
  cases o with
  | mark e =>
      cases e with
      | taskStarted base => exact h.elim
      | _ => rfl
  | _ => rfl

/-! ## The operations of the steps -/

theorem taskStep_compositional :
    Compositional VisionOp.TaskStep fun _ p => p.Uses VisionOp.TaskStep := by
  refine uses_compositional ?_ ?_ fun _ => trivial
  · intro o ho
    cases o with
    | mark e =>
        cases e with
        | gripperOpenCalled => exact trivial
        | graspCalled => exact trivial
        | _ => exact ho.elim
    | readObjectMsg => exact ho.elim
    | writeObjectMsg data => exact ho.elim
    | readIsBusy => exact ho.elim
    | writeIsBusy b => exact ho.elim
    | _ => exact trivial
  · intro o ho
    cases o with
    | mark e => exact ho.elim
    | readObjectMsg => exact ho.elim
    | writeObjectMsg data => exact ho.elim
    | readIsBusy => exact ho.elim
    | writeIsBusy b => exact ho.elim
    | _ => exact trivial

theorem gripperOpen_taskStep : gripperOpen.Uses VisionOp.TaskStep :=
  taskStep_compositional.gripperOpen

theorem pickAndPlaceSteps_taskStep (base : Vec3 ℚ) :
    (pickAndPlaceSteps base).Uses VisionOp.TaskStep :=
  taskStep_compositional.pickAndPlaceSteps ⟨trivial, trivial, trivial, trivial, fun _ _ => trivial⟩

/-! ## The callback -/

theorem startsOnce_of_noStart {α : Type} {p : Routine α} (hp : p.Uses NoStart) (ended : Bool) :
    (Machine.monitor visionSig hasEnded).wp (Machine.anyChoice _) StartsFirst p
      (fun _ _ => True) (fun _ _ => True) ended := by
  refine Machine.wp_of_uses (I := fun _ => True) ?_ hp trivial
  intro ended o _ ho
  refine ⟨fun hstart => ?_, fun _ _ => trivial⟩
  rw [ho] at hstart
  exact absurd hstart Bool.false_ne_true

/-- A task is started first thing, and its steps start no other. -/
theorem pickAndPlaceTask_startsOnce (base : Vec3 ℚ) :
    (Machine.monitor visionSig hasEnded).wp (Machine.anyChoice _) StartsFirst
      (pickAndPlaceTask base) (fun _ _ => True) (fun _ _ => True) false := by
  have hsteps : (pickAndPlaceSteps base).Uses NoStart :=
    (pickAndPlaceSteps_taskStep base).mono fun _ ho => ho.noStart
  have hrest : (do
      let b ← (pickAndPlaceSteps base).tryCatch fun e => (mark .taskRaised).bind fun _ => .raise e
      mark (.taskReturned b)
      return b : Routine Bool).Uses NoStart := by
    refine Prog.uses_bind (Prog.uses_tryCatch hsteps fun e => ?_) ?_
    · exact Prog.uses_bind ⟨rfl, fun _ => trivial⟩ fun _ => trivial
    · exact fun b => Prog.uses_bind ⟨rfl, fun _ => trivial⟩ fun _ => trivial
  exact ⟨fun _ => rfl, fun _ _ => startsOnce_of_noStart hrest _⟩

theorem objectPoseCallback_startsOnce (data : ObjectInfo) :
    StartsOnce (objectPoseCallback data) false := by
  have hflag : ∀ b ended, StartsOnce (does (.writeIsBusy b)) ended :=
    fun b ended => startsOnce_of_noStart (p := does (.writeIsBusy b)) ⟨rfl, fun _ => trivial⟩ ended
  have hbody : StartsOnce (exceptException (graspDetection data)) false := by
    refine Machine.wp_catch (F := fun _ _ => True) ?_ ?_
    · unfold graspDetection
      dsimp only
      split
      · exact hflag false false
      · exact Machine.wp_seq (pickAndPlaceTask_startsOnce _) (fun _ _ _ => trivial)
          fun _ _ _ => trivial
    · intro e ended _
      split <;> exact trivial
  refine ⟨fun _ => rfl, fun _ _ => ⟨fun _ => rfl, fun (objectMsg : Option String) _ => ?_⟩⟩
  -- the three tests of the callback start nothing
  show StartsOnce (if objectMsg = none then _ else _) false
  split
  · exact trivial
  refine ⟨fun _ => rfl, fun (isBusy : Bool) _ => ?_⟩
  show StartsOnce (if isBusy then _ else _) false
  split
  · exact trivial
  split
  · exact trivial
  refine ⟨fun _ => rfl, fun _ _ => ?_⟩
  refine (Machine.wp_tryFinally _ _ _ _ _).mpr ?_
  exact Machine.wp_mono (fun _ ended _ => hflag false ended) (fun _ ended _ => hflag false ended)
    hbody

end HakRobot.Grab
