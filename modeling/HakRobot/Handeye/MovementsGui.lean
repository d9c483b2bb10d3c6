import HakRobot.Handeye.MoveSafety
import HakRobot.Proc.Ghost
import HakRobot.Proc.Sum

/-!
# The window of the calibration movements

`CalibrationMovementsGUI` of `rqt_calibrationmovements.py` and the server it calls, when
it is the server's only client: a call runs the service to its end. `update_ui` ends by
processing pending events, so further clicks are handled in the middle of a handler. An
exception in a slot ends the program, as PyQt has it, or leaves the window running where
an `excepthook` is installed.

* `check_ends`, `select_ends`, `plan_ends`, `execute_ends` — what a service leaves when
  nobody else is served;
* `session_settles` — what holds between any two clicks of any session;
* `executed_as_shown` — a plan that is executed leads to the target the window shows.
-/

namespace HakRobot.Handeye

open HakRobot.Geometry HakRobot.Proc

/-! ## The window -/

inductive GuiState
  | notInitedYet
  | badPlan
  | goodPlan
  | movedToPose
  | badStartingPosition
  | goodStartingPosition
  | checkingStartingPosition
  | movementFailed
deriving DecidableEq

inductive Button
  | checkStartPose
  | nextPose
  | plan
  | execute
deriving DecidableEq

/-- The attributes and what the widgets show, but for the progress bar. -/
structure Gui where
  currentTargetPose : ℤ
  targetPoses : Option (List Pose)
  planWasSuccessful : Option Bool
  state : GuiState
  poseNumberLbl : String
  badPlanLbl : String
  badPlanStyle : String
  guideLbl : String
  planBtn : Bool
  executeBtn : Bool

/-- `__init__`. -/
def Gui.init : Gui where
  currentTargetPose := -1
  targetPoses := none
  planWasSuccessful := none
  state := .notInitedYet
  poseNumberLbl := "0/0"
  badPlanLbl := "No plan yet"
  badPlanStyle := ""
  guideLbl := "Hello"
  planBtn := false
  executeBtn := false

/-- `count_target_poses`. -/
def Gui.countTargetPoses (g : Gui) : Nat :=
  match g.targetPoses with
  | some (pose :: poses) => (pose :: poses).length
  | _ => 1

/-- The text of `pose_number_lbl`. -/
def poseNumber (currentTargetPose : ℤ) (count : Nat) : String :=
  toString (currentTargetPose + 1) ++ "/" ++ toString count

/-- The text and the style of `bad_plan_lbl`. -/
def GuiState.badPlanText : GuiState → String × String
  | .badPlan => ("BAD plan!! Don't do it!!!!", "QLabel \x7b background-color : red\x7d")
  | .goodPlan => ("Good plan", "QLabel \x7b background-color : green\x7d")
  | _ => ("No plan yet", "")

/-- The text of `guide_lbl`, where the state has one. -/
def GuiState.guide : GuiState → Option String
  | .notInitedYet =>
      some "Bring the robot to a plausible position and check if it is a suitable starting pose"
  | .checkingStartingPosition =>
      some "Checking if the robot can translate and rotate in all directions from the current pose"
  | .badStartingPosition => some "Cannot calibrate from current position"
  | .goodStartingPosition => some "Ready to start: click on next pose"
  | .goodPlan => some "The plan seems good: press execute to move the robot"
  | .badPlan => some "Planning failed: try again"
  | .movedToPose => some "Pose reached: take a sample and go on to next pose"
  | .movementFailed => none

/-- `update_ui`, up to the events. -/
def Gui.updated (g : Gui) : Gui :=
  { g with
    poseNumberLbl := poseNumber g.currentTargetPose g.countTargetPoses
    badPlanLbl := g.state.badPlanText.1
    badPlanStyle := g.state.badPlanText.2
    guideLbl := g.state.guide.getD g.guideLbl
    planBtn := g.state = .goodStartingPosition
    executeBtn := g.state = .goodPlan }

/-- The first two buttons are never disabled. -/
def Gui.enabled (g : Gui) : Button → Bool
  | .checkStartPose | .nextPose => true
  | .plan => g.planBtn
  | .execute => g.executeBtn

/-! ## The handlers -/

inductive GuiOp
  | self
  | assign (g : Gui)

abbrev GuiOp.Res : GuiOp → Type
  | .self => Gui
  | .assign _ => Unit

abbrev guiSig : Sig := ⟨GuiOp, GuiOp.Res⟩

/-- A method of the window. -/
abbrev Handler := Prog (moveSig.sum guiSig) MoveError

def self : Handler Gui := Prog.right (Prog.perform (σ := guiSig) .self)

def assign (g : Gui) : Handler Unit := Prog.right (Prog.perform (σ := guiSig) (.assign g))

variable (m : Movements)

/-- `handeye_client` calls a service. -/
def call (q : Request) : Handler (Bool × Option TargetPoseList) := (q.serve m).left

/-- `update_ui`, in which `events` are processed. -/
def updateUi (events : Handler Unit) : Handler Unit := do
  let g ← self
  assign g.updated
  events

/-- `handle_check_current_state`. -/
def handleCheckCurrentState (during after : Handler Unit) : Handler Unit := do
  let g ← self
  assign { g with state := .checkingStartingPosition }
  updateUi during
  match ← call m .checkStartingPosition with
  | (_, none) => .raise .attributeError
  | (canCalibrate, some poses) =>
      let g ← self
      assign { g with
        state := if canCalibrate then .goodStartingPosition else .badStartingPosition
        currentTargetPose := poses.currentTargetPoseIndex
        targetPoses := some poses.targetPoses
        planWasSuccessful := none }
      updateUi after

/-- `handle_next_pose`. It does not look at `success`. -/
def handleNextPose (after : Handler Unit) : Handler Unit := do
  let g ← self
  match ← call m (.selectTargetPose (g.currentTargetPose + 1)) with
  | (_, none) => .raise .attributeError
  | (_, some poses) =>
      let g ← self
      assign { g with
        state := .goodStartingPosition
        currentTargetPose := poses.currentTargetPoseIndex
        targetPoses := some poses.targetPoses
        planWasSuccessful := none }
      updateUi after

/-- `handle_plan`. -/
def handlePlan (after : Handler Unit) : Handler Unit := do
  let g ← self
  assign { g with
    guideLbl := "Planning to the next position. Click on execute when a good one was found" }
  let (success, _) ← call m .planToSelectedTargetPose
  let g ← self
  assign { g with
    planWasSuccessful := some success
    state := if success then .goodPlan else .badPlan }
  updateUi after

/-- `handle_execute`. -/
def handleExecute (after : Handler Unit) : Handler Unit := do
  let g ← self
  if g.planWasSuccessful = some true then
    assign { g with guideLbl := "Going to the selected pose" }
    let (success, _) ← call m .executePlan
    let g ← self
    assign { g with state := if success then .movedToPose else .movementFailed }
    updateUi after

/-- The slot of a button, with the events of its calls of `update_ui`. -/
def Button.handle (during after : Handler Unit) : Button → Handler Unit
  | .checkStartPose => handleCheckCurrentState m during after
  | .nextPose => handleNextPose m after
  | .plan => handlePlan m after
  | .execute => handleExecute m after

/-- A click, in a program that does or does not survive an exception of the slot. -/
def Button.click (survives : Bool) (b : Button) (during after : Handler Unit) :
    Handler Unit := do
  let g ← self
  if g.enabled b then
    if survives then
      (b.handle m during after).tryCatch fun _ => .ret ()
    else
      b.handle m during after

/-- Any clicks, one after another or within each other. Where the window survives a
service that raises, nothing may be clicked while that service is still to be called:
what was clicked then would leave a window that does not show what the service did. -/
inductive Session (survives : Bool) : Handler Unit → Prop
  | idle : Session survives (.ret ())
  | click (b : Button) {during after rest : Handler Unit} (hduring : Session survives during)
      (hafter : Session survives after) (hrest : Session survives rest)
      (hidle : survives = true → during = .ret ()) :
      Session survives ((b.click m survives during after).bind fun _ => rest)

/-- The pose target a plan was made for. -/
abbrev Note := Option (Option Pose × Plan)

def note (s : MoveState) : (o : MoveOp) → o.Choice → Note → Note
  | .makePlan, some p, _ => some (s.poseTarget, p)
  | _, _, n => n

/-- The server, with a note of the last plan. -/
def notedMover : Machine moveSig (MoveState × Note) := mover.ghost note

def gui : Machine guiSig Gui where
  Choice _ := Unit
  exec
    | .self, _, g => (g, g)
    | .assign g, _, _ => ((), g)

/-- The window and the server. -/
def window : Machine (moveSig.sum guiSig) ((MoveState × Note) × Gui) := notedMover.sum gui

/-! ## What the services leave -/

section Services

variable {m} {s : MoveState} {n : Note} {G : MoveState × Note → MoveOp → Prop}
  {E : MoveState × Note → Prop}

/-- A service returns in `Q` or raises in `E`; `G` holds before its steps. -/
abbrev Serves {α : Type} (G : MoveState × Note → MoveOp → Prop) (p : Moving α)
    (Q : α → MoveState × Note → Prop) (E : MoveState × Note → Prop) (s : MoveState)
    (n : Note) : Prop :=
  notedMover.wp notedMover.anyChoice G p Q (fun _ => E) (s, n)

/-- The list of a response is that of the attributes. -/
def Reports (r : Option TargetPoseList) (s : MoveState) : Prop :=
  r = some ⟨s.startPose, s.targetPoses.getD [], s.currentPoseIndex.getD 0⟩

/-- Nothing but the execution of a plan needs a reason. -/
def Free (G : MoveState × Note → MoveOp → Prop) : Prop :=
  ∀ s o, (∀ p, o ≠ .execute p) → G s o

theorem respond_ends (hG : Free G) (b : Bool) (s : MoveState) (n : Note) :
    Serves G (targetPoseList.bind fun list => .ret (b, some list))
      (fun r s' => Reports r.2 s'.1) E s n :=
  ⟨hG _ _ (by simp), fun _ _ => ⟨hG _ _ (by simp), fun _ _ => ⟨hG _ _ (by simp),
    fun _ _ => rfl⟩⟩⟩

/-- Checking poses sets pose targets and makes plans. -/
theorem checkPoses_ends (hG : Free G) (limits : List ℚ) (poses : List Pose) :
    Serves G (checkPoses limits poses) (fun _ _ => True) (fun _ => True) s n := by
  induction poses generalizing s n with
  | nil => exact trivial
  | cons fp poses ih =>
      refine ⟨hG _ _ (by simp), fun (x : Option Unit) _ => ?_⟩
      cases x with
      | none => exact trivial
      | some _ =>
          refine ⟨hG _ _ (by simp), fun (x : Option Plan) _ => ?_⟩
          cases x with
          | none => exact trivial
          | some p =>
              show Serves G (if p.points.length = 0 then _ else _) _ _ _ _
              by_cases hempty : p.points.length = 0
              · rw [if_pos hempty]
                exact trivial
              · rw [if_neg hempty]
                show Serves G (Prog.bind (.ofExcept (isCrazyPlan p limits)) _) _ _ _ _
                cases isCrazyPlan p limits with
                | error e => exact trivial
                | ok crazy =>
                    cases crazy with
                    | true => exact trivial
                    | false => exact ih

theorem check_ends (hG : Free G) :
    Serves G (Request.checkStartingPosition.serve m) (fun r s' => Reports r.2 s'.1)
      (fun _ => True) s n := by
  refine ⟨hG _ _ (by simp), fun (pose : Option Pose) _ => ?_⟩
  cases pose with
  | none => exact trivial
  | some pose =>
      refine ⟨hG _ _ (by simp), fun _ _ => ⟨hG _ _ (by simp), fun _ _ => ?_⟩⟩
      refine ⟨hG _ _ (by simp), fun _ _ => ⟨hG _ _ (by simp), fun _ _ => ?_⟩⟩
      -- the loop over the targets, and what follows it
      refine ⟨hG _ _ (by simp), fun _ _ => ?_⟩
      show Serves G (Prog.bind (Prog.bind (checkPoses _ _) _) _) _ _ _ _
      rw [Serves, Machine.wp_bind, Machine.wp_bind]
      refine Machine.wp_mono ?_ (fun _ _ h => h) (checkPoses_ends hG _ _)
      rintro ret ⟨s', n'⟩ -
      cases ret with
      | true => exact respond_ends hG true s' n'
      | false =>
          exact ⟨hG _ _ (by simp), fun _ _ => ⟨hG _ _ (by simp), fun _ _ =>
            respond_ends hG false _ _⟩⟩

theorem select_ends (hG : Free G) (i : ℤ) :
    Serves G ((Request.selectTargetPose i).serve m) (fun r s' => Reports r.2 s'.1)
      (· = (s, n)) s n := by
  rcases s with ⟨start, targets, index, plan, target⟩
  cases targets with
  | none => exact ⟨hG _ _ (by simp), fun _ _ => rfl⟩
  | some poses =>
      refine ⟨hG _ _ (by simp), fun _ _ => ?_⟩
      show Serves G (Prog.bind (if 0 ≤ i ∧ i < poses.length then _ else _) _) _ _ _ _
      by_cases hi : 0 ≤ i ∧ i < poses.length
      · rw [if_pos hi]
        exact ⟨hG _ _ (by simp), fun _ _ => respond_ends hG true _ _⟩
      · rw [if_neg hi]
        exact respond_ends hG false _ _

/-- Planning leaves the targets and the index. -/
def SameTargets (s : MoveState) (t : MoveState × Note) : Prop :=
  t.1.targetPoses = s.targetPoses ∧ t.1.currentPoseIndex = s.currentPoseIndex

/-- `_plan_to_pose`. -/
theorem planToPose_ends (hG : Free G) (goal : Pose) :
    Serves G (planToPose m (some goal))
      (fun r s' => r = true → ∃ p, s'.1.plan = some (some p) ∧ s'.2 = some (some goal, p))
      (SameTargets s) s n := by
  refine ⟨hG _ _ (by simp), fun (x : Option Unit) _ => ?_⟩
  cases x with
  | none => exact ⟨rfl, rfl⟩
  | some _ =>
      refine ⟨hG _ _ (by simp), fun (x : Option Unit) _ => ?_⟩
      cases x with
      | none => exact ⟨rfl, rfl⟩
      | some _ =>
          refine ⟨hG _ _ (by simp), fun (x : Option Plan) _ => ?_⟩
          cases x with
          | none => exact ⟨rfl, rfl⟩
          | some p =>
              show Serves G (Prog.bind (.ofExcept (isCrazyPlan p m.fallbackJointLimits)) _) _ _ _ _
              cases isCrazyPlan p m.fallbackJointLimits with
              | error e => exact ⟨rfl, rfl⟩
              | ok crazy =>
                  cases crazy with
                  | true => exact ⟨hG _ _ (by simp), fun _ _ => by simp⟩
                  | false => exact ⟨hG _ _ (by simp), fun _ _ _ => ⟨p, rfl, rfl⟩⟩

/-- A plan that is found good was made for the pose of the index. -/
theorem plan_ends (hG : Free G) :
    Serves G (Request.planToSelectedTargetPose.serve m)
      (fun r s' => r.1 = true → ∃ i poses goal p, s.currentPoseIndex = some i ∧
        s.targetPoses = some poses ∧ item poses i = some goal ∧
        s'.1.plan = some (some p) ∧ s'.2 = some (some goal, p)) (SameTargets s) s n := by
  rcases s with ⟨start, targets, index, plan, target⟩
  refine ⟨hG _ _ (by simp), fun _ _ => ⟨hG _ _ (by simp), fun _ _ => ?_⟩⟩
  cases targets with
  | none => exact ⟨rfl, rfl⟩
  | some poses =>
      cases index with
      | none => exact ⟨rfl, rfl⟩
      | some i =>
          show Serves G (Prog.bind (planToItem m poses i) _) _ _ _ _
          unfold planToItem
          cases hitem : item poses i with
          | none => exact ⟨rfl, rfl⟩
          | some goal =>
              refine Machine.wp_seq (planToPose_ends hG goal) ?_ fun _ _ he => he
              intro r s' hplan hr
              obtain ⟨p, hp, hnote⟩ := hplan hr
              exact ⟨i, poses, goal, p, rfl, rfl, hitem, hp, hnote⟩

theorem execute_ends (hG : Free G) {p : Plan} (hplan : s.plan = some (some p))
    (hexecute : G (s, n) (.execute (some p))) :
    Serves G (Request.executePlan.serve m) (fun _ _ => True) (· = (s, n)) s n := by
  rcases s with ⟨start, targets, index, plan, target⟩
  obtain rfl : plan = some (some p) := hplan
  refine ⟨hG _ _ (by simp), fun _ _ => ⟨hG _ _ (by simp), fun _ _ => ?_⟩⟩
  show Serves G (Prog.bind (Prog.bind (.ofExcept (isCrazyPlan p m.fallbackJointLimits)) _) _)
    _ _ _ _
  cases isCrazyPlan p m.fallbackJointLimits with
  | error e => exact rfl
  | ok crazy =>
      cases crazy with
      | true => exact trivial
      | false =>
          refine ⟨hG _ _ (by simp), fun _ _ => ⟨hexecute, fun (x : Option Unit) _ => ?_⟩⟩
          cases x with
          | none => exact rfl
          | some _ => exact trivial

end Services

/-! ## Sessions -/

/-- The plan is the one that was made for the target the window shows, as a good plan. -/
def Shown (s : (MoveState × Note) × Gui) (p : Plan) : Prop :=
  ∃ poses goal, s.2.targetPoses = some poses ∧ item poses s.2.currentTargetPose = some goal ∧
    s.1.2 = some (some goal, p) ∧
    s.2.poseNumberLbl = poseNumber s.2.currentTargetPose poses.length ∧
    s.2.badPlanLbl = "Good plan"

/-- Before a plan is executed. -/
def Executes (s : (MoveState × Note) × Gui) : (moveSig.sum guiSig).Op → Prop
  | .inl (.execute plan) => ∃ p, plan = some p ∧ Shown s p
  | _ => True

/-- The attributes agree with the server, where the state says so. -/
structure Agrees (s : (MoveState × Note) × Gui) : Prop where
  ready : s.2.state = .goodStartingPosition →
    s.2.targetPoses = some (s.1.1.targetPoses.getD []) ∧
      s.2.currentTargetPose = s.1.1.currentPoseIndex.getD 0
  good : s.2.state = .goodPlan → s.2.planWasSuccessful = some true ∧ ∃ poses goal p,
    s.2.targetPoses = some poses ∧ item poses s.2.currentTargetPose = some goal ∧
      s.1.1.plan = some (some p) ∧ s.1.2 = some (some goal, p)

/-- And the widgets show it. -/
structure Settled (s : (MoveState × Note) × Gui) : Prop extends Agrees s where
  planBtn : s.2.planBtn = true → s.2.state = .goodStartingPosition
  executeBtn : s.2.executeBtn = true → s.2.state = .goodPlan
  labels : s.2.state = .goodPlan →
    s.2.poseNumberLbl = poseNumber s.2.currentTargetPose s.2.countTargetPoses ∧
      s.2.badPlanLbl = "Good plan"

/-- From `s`, a handler executes only what is shown, and returns settled; where the window
survives an exception, it raises settled too. -/
abbrev Settles (survives : Bool) (p : Handler Unit) (s : (MoveState × Note) × Gui) : Prop :=
  window.wp window.anyChoice Executes p (fun _ => Settled)
    (fun _ s' => survives = true → Settled s') s

variable {m} {survives : Bool} {x : MoveState × Note} {g : Gui} {during after : Handler Unit}

theorem settled_updated (h : Agrees (x, g)) : Settled (x, g.updated) where
  ready := h.ready
  good := h.good
  planBtn hbtn := of_decide_eq_true hbtn
  executeBtn hbtn := of_decide_eq_true hbtn
  labels hstate := by
    have hgood : g.state = .goodPlan := hstate
    refine ⟨rfl, ?_⟩
    show g.state.badPlanText.1 = _
    rw [hgood]
    rfl

/-- Most states say nothing about the server. -/
theorem agrees_other {s : (MoveState × Note) × Gui} (state : GuiState) (hs : s.2.state = state)
    (hready : state ≠ .goodStartingPosition) (hgood : state ≠ .goodPlan) : Agrees s :=
  ⟨fun h => absurd (hs.symm.trans h) hready, fun h => absurd (hs.symm.trans h) hgood⟩

/-- Whatever the events are, if they settle. -/
def Harmless (survives : Bool) (events : Handler Unit) : Prop :=
  ∀ s, Settled s → Settles survives events s

theorem updateUi_settles (h : Agrees (x, g)) (hafter : Harmless survives after) :
    Settles survives (updateUi after) (x, g) :=
  ⟨trivial, fun _ _ => ⟨trivial, fun _ _ => hafter _ (settled_updated h)⟩⟩

theorem free_executes (g : Gui) : Free fun s o => Executes (s, g) (.inl o) := by
  intro s o ho
  cases o with
  | execute p => exact absurd rfl (ho p)
  | startPose => exact trivial
  | setStartPose p => exact trivial
  | targetPoses => exact trivial
  | setTargetPoses ps => exact trivial
  | currentPoseIndex => exact trivial
  | setCurrentPoseIndex i => exact trivial
  | plan => exact trivial
  | setPlan p => exact trivial
  | getCurrentPose => exact trivial
  | setStartState => exact trivial
  | setPoseTarget p => exact trivial
  | makePlan => exact trivial

/-- A call, and what its caller does with the response. -/
theorem call_then {q : Request} {k : Bool × Option TargetPoseList → Handler Unit}
    {Q : Bool × Option TargetPoseList → MoveState × Note → Prop} {E : MoveState × Note → Prop}
    (hq : Serves (fun s o => Executes (s, g) (.inl o)) (q.serve m) Q E x.1 x.2)
    (hk : ∀ r y, Q r y → Settles survives (k r) (y, g))
    (hraise : ∀ y, E y → survives = true → Settled (y, g)) :
    Settles survives ((call m q).bind k) (x, g) := by
  rw [Settles, Machine.wp_bind]
  exact Machine.wp_left (Machine.wp_mono hk (fun _ y hy => hraise y hy) hq)

/-- During the check the window promises nothing about the server. -/
theorem settled_checking {y : MoveState × Note} (h : Settled (x, g))
    (hstate : g.state = .checkingStartingPosition) : Settled (y, g) where
  toAgrees := agrees_other .checkingStartingPosition hstate (by simp) (by simp)
  planBtn := h.planBtn
  executeBtn := h.executeBtn
  labels := h.labels

/-- Only a window that does not survive an exception can leave the state of the check
before its service is called. -/
theorem updateUi_checking (hduring : Harmless survives during)
    (hidle : survives = true → during = .ret ()) :
    window.wp window.anyChoice Executes (updateUi during)
      (fun _ s => survives = true → Settled s ∧ s.2.state = .checkingStartingPosition)
      (fun _ s => survives = true → Settled s)
      (x, { g with state := .checkingStartingPosition }) := by
  have hagrees : Agrees (x, { g with state := .checkingStartingPosition }) :=
    agrees_other .checkingStartingPosition rfl (by simp) (by simp)
  cases survives with
  | false =>
      -- what was clicked meanwhile can have left any state
      refine Machine.wp_mono ?_ (fun _ _ he => he) (updateUi_settles hagrees hduring)
      exact fun _ _ _ hfalse => absurd hfalse Bool.false_ne_true
  | true =>
      obtain rfl := hidle rfl
      exact ⟨trivial, fun _ _ => ⟨trivial, fun _ _ _ => ⟨settled_updated hagrees, rfl⟩⟩⟩

theorem handleCheckCurrentState_settles (hduring : Harmless survives during)
    (hidle : survives = true → during = .ret ()) (hafter : Harmless survives after) :
    Settles survives (handleCheckCurrentState m during after) (x, g) := by
  refine ⟨trivial, fun _ _ => ⟨trivial, fun _ _ => ?_⟩⟩
  show Settles survives (Prog.bind (updateUi during) _) _
  refine Machine.wp_seq (updateUi_checking hduring hidle) ?_ fun _ _ he => he
  rintro _ ⟨x, g⟩ hchecking
  -- a check that raises can have replaced the server's targets
  refine call_then (check_ends (free_executes g)) ?_ fun y _ hsurvives =>
    settled_checking (hchecking hsurvives).1 (hchecking hsurvives).2
  rintro ⟨canCalibrate, list⟩ y hlist
  obtain rfl : list = _ := hlist
  refine ⟨trivial, fun _ _ => ⟨trivial, fun _ _ => updateUi_settles ?_ hafter⟩⟩
  cases canCalibrate with
  | true => exact ⟨fun _ => ⟨rfl, rfl⟩, fun hstate => by cases hstate⟩
  | false => exact agrees_other .badStartingPosition rfl (by simp) (by simp)

theorem handleNextPose_settles (h : Settled (x, g)) (hafter : Harmless survives after) :
    Settles survives (handleNextPose m after) (x, g) := by
  refine ⟨trivial, fun _ _ => ?_⟩
  refine call_then (select_ends (free_executes g) _) ?_ ?_
  · rintro ⟨success, list⟩ y hlist
    obtain rfl : list = _ := hlist
    exact ⟨trivial, fun _ _ => ⟨trivial, fun _ _ =>
      updateUi_settles ⟨fun _ => ⟨rfl, rfl⟩, fun hstate => by cases hstate⟩ hafter⟩⟩
  · rintro _ rfl -
    exact h

/-- A plan that was not found may be asked for again. -/
theorem settled_replan {y : MoveState × Note} (h : Settled (x, g))
    (hstate : g.state = .goodStartingPosition) (hy : SameTargets x.1 y) (text : String) :
    Settled (y, { g with guideLbl := text }) := by
  obtain ⟨htargets, hindex⟩ := h.ready hstate
  have hnot : g.state ≠ .goodPlan := by
    rw [hstate]
    simp
  refine ⟨⟨fun _ => ⟨?_, ?_⟩, fun hgood => absurd hgood hnot⟩, h.planBtn, h.executeBtn,
    fun hgood => absurd hgood hnot⟩
  · rw [hy.1]
    exact htargets
  · rw [hy.2]
    exact hindex

theorem handlePlan_settles (h : Settled (x, g)) (hbtn : g.planBtn = true)
    (hafter : Harmless survives after) : Settles survives (handlePlan m after) (x, g) := by
  have hstate := h.planBtn hbtn
  obtain ⟨htargets, hindex⟩ := h.ready hstate
  refine ⟨trivial, fun _ _ => ⟨trivial, fun _ _ => ?_⟩⟩
  refine call_then (plan_ends (free_executes _)) ?_ ?_
  · rintro ⟨success, list⟩ y hplan
    refine ⟨trivial, fun _ _ => ⟨trivial, fun _ _ => updateUi_settles ?_ hafter⟩⟩
    cases success with
    | false => exact agrees_other .badPlan rfl (by simp) (by simp)
    | true =>
        -- the window's index and targets are those the server planned with
        obtain ⟨i, poses, goal, p, hi, hposes, hitem, hp, hnote⟩ := hplan rfl
        have hshown : g.targetPoses = some poses := by
          rw [show x.1.targetPoses = some poses from hposes] at htargets
          exact htargets
        have hcurrent : g.currentTargetPose = i := by
          rw [show x.1.currentPoseIndex = some i from hi] at hindex
          exact hindex
        refine ⟨fun hstate => (by cases hstate), fun _ =>
          ⟨rfl, poses, goal, p, hshown, ?_, hp, hnote⟩⟩
        show item poses g.currentTargetPose = some goal
        rw [hcurrent]
        exact hitem
  · exact fun y hy _ => settled_replan h hstate hy _

/-- The count of a list that has the pose. -/
theorem countTargetPoses_of_item {poses : List Pose} {i : ℤ} {pose : Pose}
    (htargets : g.targetPoses = some poses) (hitem : item poses i = some pose) :
    g.countTargetPoses = poses.length := by
  unfold Gui.countTargetPoses
  rw [htargets]
  cases poses with
  | cons first poses => rfl
  | nil =>
      unfold item at hitem
      split at hitem <;> simp at hitem

theorem handleExecute_settles (h : Settled (x, g)) (hbtn : g.executeBtn = true)
    (hafter : Harmless survives after) : Settles survives (handleExecute m after) (x, g) := by
  have hstate := h.executeBtn hbtn
  obtain ⟨hsuccess, poses, goal, p, htargets, hitem, hplan, hnote⟩ := h.good hstate
  obtain ⟨hnumber, hlbl⟩ := h.labels hstate
  have hcount := countTargetPoses_of_item htargets hitem
  refine ⟨trivial, fun _ _ => ?_⟩
  show Settles survives (if g.planWasSuccessful = some true then _ else _) (x, g)
  rw [if_pos hsuccess]
  refine ⟨trivial, fun _ _ => ?_⟩
  refine call_then (execute_ends (free_executes _) hplan
    ⟨p, rfl, poses, goal, htargets, hitem, hnote, by rw [← hcount]; exact hnumber, hlbl⟩) ?_ ?_
  · rintro ⟨success, list⟩ y -
    refine ⟨trivial, fun _ _ => ⟨trivial, fun _ _ => updateUi_settles ?_ hafter⟩⟩
    cases success with
    | true => exact agrees_other .movedToPose rfl (by simp) (by simp)
    | false => exact agrees_other .movementFailed rfl (by simp) (by simp)
  · rintro _ rfl -
    exact ⟨⟨h.ready, h.good⟩, h.planBtn, h.executeBtn, h.labels⟩

theorem handle_settles (b : Button) (h : Settled (x, g)) (hb : g.enabled b = true)
    (hduring : Harmless survives during) (hidle : survives = true → during = .ret ())
    (hafter : Harmless survives after) : Settles survives (b.handle m during after) (x, g) := by
  cases b with
  | checkStartPose => exact handleCheckCurrentState_settles hduring hidle hafter
  | nextPose => exact handleNextPose_settles h hafter
  | plan => exact handlePlan_settles h hb hafter
  | execute => exact handleExecute_settles h hb hafter

theorem click_settles (b : Button) (hduring : Harmless survives during)
    (hidle : survives = true → during = .ret ()) (hafter : Harmless survives after) :
    Harmless survives (b.click m survives during after) := by
  rintro ⟨x, g⟩ h
  refine ⟨trivial, fun _ _ => ?_⟩
  show Settles survives (if g.enabled b = true then _ else _) (x, g)
  by_cases hb : g.enabled b = true
  · rw [if_pos hb]
    have hhandle := handle_settles (m := m) b h hb hduring hidle hafter
    cases survives with
    | false => exact hhandle
    | true => exact Machine.wp_catch hhandle fun _ _ hsettled => hsettled rfl
  · rw [if_neg hb]
    exact h

/-- **Sessions settle.** -/
theorem session_settles {p : Handler Unit} (hp : Session m survives p) : Harmless survives p := by
  induction hp with
  | idle => exact fun _ h => h
  | click b _ _ _ hidle ihduring ihafter ihrest =>
      intro s h
      exact Machine.wp_seq (click_settles b ihduring hidle ihafter s h) (fun _ s h => ihrest s h)
        fun _ _ h => h

theorem settled_init (start : Pose) : Settled ((.init start, none), .init) :=
  ⟨⟨by simp [Gui.init], by simp [Gui.init]⟩, by simp [Gui.init], by simp [Gui.init],
    by simp [Gui.init]⟩

variable {start : Pose} {p : Handler Unit} {d : Handler Unit × (MoveState × Note) × Gui}

/-- **Executed as shown.** In every session of clicks, whatever MoveIt answers and whether
an exception of a slot ends the program or the window survives it: when a
plan is about to be executed there is one, it was made for item `i` of the list of
targets, and the window shows a good plan and the number `i + 1` of that list. Before any
target is selected `i` is -1, which is the list's last item. -/
theorem executed_as_shown (hp : Session m survives p)
    (hsteps : window.Steps window.anyChoice (p, (.init start, none), .init) d)
    {plan : Option Plan} (hnext : d.1.next = some (.inl (.execute plan))) :
    ∃ executed, plan = some executed ∧ Shown d.2 executed :=
  Machine.wp_next (Machine.wp_steps (c := (p, (.init start, none), .init))
    (session_settles hp _ (settled_init start)) hsteps) hnext

/-! ## A session -/

/-- The start pose is checked, a plan is made and executed. -/
def threeClicks : Handler Unit :=
  (Button.checkStartPose.click straight true (.ret ()) (.ret ())).bind fun _ =>
    (Button.plan.click straight true (.ret ()) (.ret ())).bind fun _ =>
      (Button.execute.click straight true (.ret ()) (.ret ())).bind fun _ => .ret ()

theorem threeClicks_session : Session straight true threeClicks := by
  refine .click _ .idle .idle (.click _ .idle .idle (.click _ .idle .idle .idle ?_) ?_) ?_
  all_goals exact fun _ => rfl

/-- MoveIt makes `shortPlan`. -/
def planShort : ∀ _ : (MoveState × Note) × Gui, (o : (moveSig.sum guiSig).Op) → window.Choice o
  | _, .inl o => planning shortPlan o
  | _, .inr _ => ()

/-- The session, up to the execution. -/
def beforeExecution : Handler Unit × (MoveState × Note) × Gui :=
  window.runFor planShort 71 (threeClicks, (.init above, none), .init)

/-- The plan that is about to be executed. -/
def executing : Option (moveSig.sum guiSig).Op → Option Plan
  | some (.inl (.execute plan)) => plan
  | _ => none

theorem next_of_executing {o : Option (moveSig.sum guiSig).Op} {plan : Plan}
    (h : executing o = some plan) : o = some (.inl (.execute (some plan))) := by
  unfold executing at h
  split at h
  · rw [h]
  · cases h

/-- `executed_as_shown` for this session: nothing was selected, and the window shows 0. -/
theorem executed_as_shown_last :
    beforeExecution.2.2.poseNumberLbl = "0/17" ∧ Shown beforeExecution.2 shortPlan := by
  refine ⟨by decide +kernel, ?_⟩
  have hnext := next_of_executing (o := beforeExecution.1.next)
    (show executing _ = some shortPlan by decide +kernel)
  obtain ⟨executed, hexecuted, hshown⟩ := executed_as_shown threeClicks_session
    (Machine.runFor_steps (fun _ _ => trivial) 71 _) hnext
  obtain rfl : shortPlan = executed := Option.some.inj hexecuted
  exact hshown

end HakRobot.Handeye
