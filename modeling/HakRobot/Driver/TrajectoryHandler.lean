import HakRobot.Driver.TcpClient

/-!
# The trajectory handler and the driver node

`TrajectoryHandler` and `TrajectoryActionServer` of `trajectory_handler.py`,
and the parts of `hk_driver_node.py` that run them: the start-up connection and
the callback of the `joint_path_command` topic. What the loop does on a machine
follows from what its parts do there, by `sendPoints_round` and
`executeTrajectory_enter`.
-/

namespace HakRobot.Driver

open HakRobot.Proc

/-- `TrajectoryHandler`: which `executing` flag it owns, and its interval. -/
structure TrajectoryHandler where
  id : HandlerId
  sendInterval : ℚ

/-- The handler of the `joint_path_command` topic. -/
def topicHandler (sendInterval : ℚ) : TrajectoryHandler := ⟨.topic, sendInterval⟩

/-- The handler of the action server. -/
def actionHandler (sendInterval : ℚ) : TrajectoryHandler := ⟨.action, sendInterval⟩

/-- `rospy.is_shutdown()`. -/
def isShutdown : Method Bool := does .isShutdown

/-- `self.executing`. -/
def readExecuting (h : TrajectoryHandler) : Method Bool := does (.readExecuting h.id)

/-- `self.executing = b`. -/
def writeExecuting (h : TrajectoryHandler) (b : Bool) : Method Unit :=
  does (.writeExecuting h.id b)

/-- `rospy.is_shutdown() or not self.executing`, in that order. -/
def interrupted (h : TrajectoryHandler) : Method Bool := do
  if ← isShutdown then
    return true
  return !(← readExecuting h)

/-- `rospy.sleep`. -/
def rospySleep (seconds : ℚ) : Method Unit := (does (.rospySleep seconds)).bind .ofExcept

/-- The fixed interval after a point, skipped after the last one. -/
def pauseAfter (h : TrajectoryHandler) (i total : Nat) : Method Unit :=
  if i + 1 < total then
    rospySleep h.sendInterval
  else
    return ()

/-- The operations of the handler itself, apart from those of its client. -/
def HandlerOp : DriverOp → Prop
  | .isShutdown | .readExecuting _ | .writeExecuting _ _ | .rospySleep _ => True
  | _ => False

theorem interrupted_uses (h : TrajectoryHandler) : (interrupted h).Uses HandlerOp := by
  refine ⟨trivial, fun now => ?_⟩
  cases (now : Bool) with
  | true => exact trivial
  | false => exact ⟨trivial, fun _ => trivial⟩

theorem pauseAfter_uses (h : TrajectoryHandler) (i total : Nat) :
    (pauseAfter h i total).Uses HandlerOp := by
  unfold pauseAfter
  split
  · exact ⟨trivial, fun r => Prog.uses_ofExcept r⟩
  · exact trivial

theorem writeExecuting_uses (h : TrajectoryHandler) (b : Bool) :
    (writeExecuting h b).Uses HandlerOp := ⟨trivial, fun _ => trivial⟩

/-- The loop of `execute_trajectory` over the points from index `i` on. -/
def sendPoints (c : ℚ) (h : TrajectoryHandler) (total : Nat) :
    Nat → List JointTrajectoryPoint → Method Bool
  | _, [] => do
      writeExecuting h false
      return true
  | i, point :: rest => do
      if ← interrupted h then
        writeExecuting h false
        return false
      if point.positions.length ≠ 6 then
        -- wrong joint count: logged and skipped
        sendPoints c h total (i + 1) rest
      else
        let success ← sendJointPositions c point.positions
        if success then
          pauseAfter h i total
          sendPoints c h total (i + 1) rest
        else
          let reconnected ← reconnect 3
          if !reconnected then
            writeExecuting h false
            return false
          else
            let success ← sendJointPositions c point.positions
            if !success then
              -- still failing on the new connection: logged and skipped
              sendPoints c h total (i + 1) rest
            else
              pauseAfter h i total
              sendPoints c h total (i + 1) rest

/-- `TrajectoryHandler.execute_trajectory`. -/
def executeTrajectory (c : ℚ) (h : TrajectoryHandler) (trajectory : JointTrajectory) :
    Method Bool := do
  if !(← isConnected) then
    return false
  if trajectory.points.length = 0 then
    return false
  writeExecuting h true
  sendPoints c h trajectory.points.length 0 trajectory.points

section Round

variable {S : Type} {M : Machine driverSig S} {R : M.Rely} {I : S → DriverOp → Prop}
  {Q : Bool → S → Prop} {E : PyException → S → Prop} {T F A W L X : S → Prop} {c : ℚ}
  {h : TrajectoryHandler} {total i : Nat} {point : JointTrajectoryPoint}
  {rest : List JointTrajectoryPoint} {s : S}

/-- The rule for one round, on any machine. It asserts `T` after a test that goes
on, `F` after a send that failed, `A` on the new connection, `W` after the line is
written, `L` after a resend that failed, and `X` where the loop is left. -/
theorem sendPoints_round
    (htest : M.wp R I (interrupted h)
      (fun b s' => (b = true → X s') ∧ (b = false → T s')) E s)
    (hskip : point.positions.length ≠ 6 → ∀ t, T t →
      M.wp R I (sendPoints c h total (i + 1) rest) Q E t)
    (hsend : point.positions.length = 6 → ∀ t, T t →
      M.wp R I (sendJointPositions c point.positions)
        (fun b s' => (b = true → W s') ∧ (b = false → F s')) E t)
    (hreconnect : point.positions.length = 6 → ∀ t, F t → M.wp R I (reconnect 3)
      (fun b s' => (b = true → A s') ∧ (b = false → X s')) E t)
    (hresend : point.positions.length = 6 → ∀ t, A t →
      M.wp R I (sendJointPositions c point.positions)
        (fun b s' => (b = true → W s') ∧ (b = false → L s')) E t)
    (hwritten : point.positions.length = 6 → ∀ t, W t →
      M.wp R I (do pauseAfter h i total; sendPoints c h total (i + 1) rest) Q E t)
    (hlost : point.positions.length = 6 → ∀ t, L t →
      M.wp R I (sendPoints c h total (i + 1) rest) Q E t)
    (hleave : ∀ t, X t → M.wp R I (do writeExecuting h false; return false) Q E t) :
    M.wp R I (sendPoints c h total i (point :: rest)) Q E s := by
  refine Machine.wp_seq htest ?_ fun _ _ he => he
  intro stop s₁ h₁
  cases stop with
  | true => exact hleave s₁ (h₁.1 rfl)
  | false =>
      by_cases hcount : point.positions.length = 6
      · simp only [hcount, ne_eq, not_true_eq_false, Bool.false_eq_true, if_false]
        refine Machine.wp_seq (hsend hcount s₁ (h₁.2 rfl)) ?_ fun _ _ he => he
        intro first s₂ h₂
        cases first with
        | true => exact hwritten hcount s₂ (h₂.1 rfl)
        | false =>
            refine Machine.wp_seq (hreconnect hcount s₂ (h₂.2 rfl)) ?_ fun _ _ he => he
            intro reconnected s₃ h₃
            cases reconnected with
            | false => exact hleave s₃ (h₃.2 rfl)
            | true =>
                refine Machine.wp_seq (hresend hcount s₃ (h₃.1 rfl)) ?_ fun _ _ he => he
                intro second s₄ h₄
                cases second with
                | true => exact hwritten hcount s₄ (h₄.1 rfl)
                | false => exact hlost hcount s₄ (h₄.2 rfl)
      · simp only [hcount, ne_eq, not_false_eq_true, Bool.false_eq_true, if_false, if_true]
        exact hskip hcount s₁ (h₁.2 rfl)

/-- A round in which the line is written at the first send. -/
theorem sendPoints_round_written (hcount : point.positions.length = 6)
    (htest : M.wp R I (interrupted h) (fun b s' => b = false ∧ T s') E s)
    (hsend : ∀ t, T t →
      M.wp R I (sendJointPositions c point.positions) (fun b s' => b = true ∧ W s') E t)
    (hwritten : ∀ t, W t →
      M.wp R I (do pauseAfter h i total; sendPoints c h total (i + 1) rest) Q E t) :
    M.wp R I (sendPoints c h total i (point :: rest)) Q E s := by
  refine sendPoints_round (T := T) (F := fun _ => False) (A := fun _ => False) (W := W)
    (L := fun _ => False) (X := fun _ => False) ?_ (fun hne => absurd hcount hne) ?_
    nofun nofun (fun _ => hwritten) nofun nofun
  · refine Machine.wp_mono ?_ (fun _ _ he => he) htest
    exact fun _ _ hpost => ⟨fun hb => absurd (hpost.1.symm.trans hb) nofun, fun _ => hpost.2⟩
  · intro _ t ht
    refine Machine.wp_mono ?_ (fun _ _ he => he) (hsend t ht)
    exact fun _ _ hpost => ⟨fun _ => hpost.2, fun hb => absurd (hpost.1.symm.trans hb) nofun⟩

/-- The rule for the entry: `T` holds once the client is seen connected. -/
theorem executeTrajectory_enter {trajectory : JointTrajectory}
    (htest : M.wp R I isConnected
      (fun b s' => (b = false → Q false s') ∧ (b = true → T s')) E s)
    (hempty : trajectory.points.length = 0 → ∀ t, T t → Q false t)
    (hloop : trajectory.points.length ≠ 0 → ∀ t, T t →
      M.wp R I (do writeExecuting h true
                   sendPoints c h trajectory.points.length 0 trajectory.points) Q E t) :
    M.wp R I (executeTrajectory c h trajectory) Q E s := by
  refine Machine.wp_seq htest ?_ fun _ _ he => he
  intro connected s₁ h₁
  cases connected with
  | false => exact h₁.1 rfl
  | true =>
      by_cases hpoints : trajectory.points.length = 0
      · simp only [hpoints, Bool.not_true, Bool.false_eq_true, if_false, if_true]
        exact hempty hpoints s₁ (h₁.2 rfl)
      · simp only [hpoints, Bool.not_true, Bool.false_eq_true, if_false]
        exact hloop hpoints s₁ (h₁.2 rfl)

end Round

/-- `TrajectoryHandler.stop_execution`. -/
def stopExecution (h : TrajectoryHandler) : Method Unit := writeExecuting h false

/-- How a goal of the action server ends, with the error code of its result. -/
inductive GoalResult
  | succeeded (errorCode : Int)
  | aborted (errorCode : Int)
deriving DecidableEq, Repr

/-- `FollowJointTrajectoryResult.SUCCESSFUL`. -/
def SUCCESSFUL : Int := 0

/-- `FollowJointTrajectoryResult.PATH_TOLERANCE_VIOLATED`. -/
def PATH_TOLERANCE_VIOLATED : Int := -4

/-- `TrajectoryActionServer.execute_callback`. -/
def executeCallback (c : ℚ) (h : TrajectoryHandler) (goal : JointTrajectory) :
    Method GoalResult := do
  let success ← executeTrajectory c h goal
  if success then
    return .succeeded SUCCESSFUL
  else
    return .aborted PATH_TOLERANCE_VIOLATED

/-- `HKDriverNode.trajectory_callback`; its value is the local `success`. -/
def trajectoryCallback (c : ℚ) (h : TrajectoryHandler) (msg : JointTrajectory) : Method Bool :=
  executeTrajectory c h msg

/-- The connection at the start of `HKDriverNode.__init__`. -/
def startUp : Method Unit := do
  if !(← connect 5) then
    if !(← reconnect 5) then
      Prog.raise .systemExit

end HakRobot.Driver
