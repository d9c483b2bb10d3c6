import HakRobot.Driver.Delivery

/-!
# After a connection loss

`execute_trajectory` refuses to start while the client is disconnected, and
`reconnect` is called from inside its loop only. So the client recovers from a
failure in the middle of a trajectory, but a trajectory that ends disconnected
(its `reconnect` gave up, or the resend of its last point failed) leaves a state
in which every later trajectory is refused.
-/

namespace HakRobot.Driver

open HakRobot.Proc

variable {c : ℚ}

/-- The node is not shut down. The sockets may do anything. -/
def DriverOp.WhileRunning : (o : DriverOp) → o.Choice → Prop
  | .isShutdown, now => now = false
  | .rospySleep _, interrupted => interrupted = false
  | _, _ => True

/-- The robot is reachable: every socket operation succeeds. -/
def DriverOp.WhileReachable : (o : DriverOp) → o.Choice → Prop
  | .newSocket, ok | .setsockopt, ok | .settimeout _, ok | .socketConnect, ok
  | .lockedDisconnect, ok => ok = true
  | .lockedSendall _, out => out = .whole
  | .lockedRecv _ _, out => ∃ cs, out = .data cs
  | .isShutdown, now => now = false
  | .rospySleep _, interrupted => interrupted = false
  | _, _ => True

/-- See `DriverOp.WhileRunning`. -/
def whileRunning : driver.Rely := fun _ o x => DriverOp.WhileRunning o x

/-- See `DriverOp.WhileReachable`. -/
def whileReachable : driver.Rely := fun _ o x => DriverOp.WhileReachable o x

/-- Any number of trajectories, executed one after another. -/
def Executed (c : ℚ) : ClientState → ClientState → Prop :=
  Relation.ReflTransGen fun s s' => ∃ (h : TrajectoryHandler) (trajectory : JointTrajectory)
    (r : Except PyException Bool),
    driver.Steps whileRunning (executeTrajectory c h trajectory, s) (.ofExcept r, s')

/-- A state of the driver node after a start-up that succeeded. -/
def Reachable (c : ℚ) (s : ClientState) : Prop :=
  ∃ s₀, driver.Steps whileRunning (startUp, .init) (.ret (), s₀) ∧ Executed c s₀ s

/-! ## The invariant of the reachable states -/

theorem startUp_spec (s : ClientState) :
    driver.Ends whileRunning startUp (fun _ s' => s'.Linked) (fun _ _ => True) s := by
  refine Machine.wp_seq (connect_spec 5 s) ?_ fun _ _ _ => trivial
  intro b s₁ h₁
  cases b with
  | true => exact h₁.linked
  | false =>
      refine Machine.wp_seq (reconnect_spec 5 s₁) ?_ fun _ _ _ => trivial
      intro b s₂ h₂
      cases b with
      | true => exact h₂.linked
      | false => trivial

/-- Only `rospy.is_shutdown()` can notice a shutdown. -/
theorem whileRunning_shutdown {s : ClientState} {o : DriverOp} {x : driver.Choice o}
    (hs : s.shutdown = false) (hx : whileRunning s o x) :
    (driver.exec o x s).2.shutdown = false := by
  cases o with
  | isShutdown =>
      have hnow : (x : Bool) = false := hx
      show (s.shutdown || (x : Bool)) = false
      rw [hs, hnow]
      rfl
  | newSocket => exact (s.openSocket_shutdown x).trans hs
  | setsockopt => exact (congrArg ClientState.shutdown (s.configure_snd x)).trans hs
  | settimeout _ => exact (congrArg ClientState.shutdown (s.configure_snd x)).trans hs
  | socketConnect => exact (s.connectSocket_shutdown x).trans hs
  | lockedSendall raw => exact (s.sendallLocked_shutdown x).trans hs
  | lockedRecv _ _ => exact (s.recvLocked_shutdown x).trans hs
  | lockedDisconnect => exact (s.disconnectLocked_shutdown x).trans hs
  | _ => exact hs

theorem Executed.linked {s s' : ClientState} (h : Executed c s s') (hs : s.Linked) :
    s'.Linked := by
  induction h with
  | refl => exact hs
  | tail _ hrun ih =>
      obtain ⟨h, trajectory, r, hsteps⟩ := hrun
      cases r with
      | ok b => exact (Machine.wp_returns (executeTrajectory_spec h trajectory _) hsteps).1 ih
      | error e => exact Machine.wp_raises (executeTrajectory_spec h trajectory _) hsteps ih

theorem Executed.shutdown {s s' : ClientState} (h : Executed c s s')
    (hs : s.shutdown = false) : s'.shutdown = false := by
  induction h with
  | refl => exact hs
  | tail _ hrun ih =>
      obtain ⟨h, trajectory, r, hsteps⟩ := hrun
      exact hsteps.invariant (I := fun s => s.shutdown = false)
        (fun _ _ _ hs hx => whileRunning_shutdown hs hx) ih

/-- In a reachable state `connected` means an open connection, and the node is
not shut down. -/
theorem Reachable.invariant {s : ClientState} (h : Reachable c s) :
    s.Linked ∧ s.shutdown = false := by
  obtain ⟨s₀, hstart, hexec⟩ := h
  have hlink₀ : s₀.Linked := Machine.wp_returns (startUp_spec .init) hstart
  have hup₀ : s₀.shutdown = false :=
    hstart.invariant (I := fun s => s.shutdown = false)
      (fun _ _ _ hs hx => whileRunning_shutdown hs hx) rfl
  exact ⟨hexec.linked hlink₀, hexec.shutdown hup₀⟩

/-! ## A connected client -/

/-- The client after it wrote `lines` on its open connection. -/
def ClientState.wrote (s : ClientState) (lines : List (List Char)) : ClientState :=
  { s with sends := s.sends ++ lines.map fun line => ⟨s.socket, line, none⟩ }

theorem ClientState.wrote_wrote (s : ClientState) (v w : List (List Char)) :
    (s.wrote v).wrote w = s.wrote (v ++ w) := by
  simp [ClientState.wrote]

theorem ClientState.wrote_nil (s : ClientState) : s.wrote [] = s := by
  simp [ClientState.wrote]

/-- A client that is ready to send. -/
structure ClientState.Ready (s : ClientState) (h : TrajectoryHandler) : Prop where
  connected : s.connected = true
  isOpen : s.Open
  running : s.shutdown = false
  executing : s.executing h.id = true

theorem ClientState.Ready.wrote {s : ClientState} {h : TrajectoryHandler} (hs : s.Ready h)
    (lines : List (List Char)) : (s.wrote lines).Ready h :=
  ⟨hs.connected, hs.isOpen, hs.running, hs.executing⟩

theorem interrupted_ready {h : TrajectoryHandler} {s : ClientState} (hs : s.Ready h) :
    driver.Ends whileReachable (interrupted h) (fun b s' => b = false ∧ s' = s)
      (fun _ _ => False) s := by
  obtain ⟨_, _, hup, hexec⟩ := hs
  refine ⟨trivial, fun (now : Bool) (hnow : now = false) => ?_⟩
  subst hnow
  show driver.wp whileReachable _ (if s.shutdown || false then _ else _) _ _
    { s with shutdown := s.shutdown || false }
  rw [hup]
  refine ⟨trivial, fun _ _ => ⟨?_, ?_⟩⟩
  · show (!s.executing h.id) = false
    rw [hexec]
    rfl
  · show ({ s with shutdown := false } : ClientState) = s
    rw [← hup]

theorem pauseAfter_ready (h : TrajectoryHandler) (i total : Nat) (s : ClientState) :
    driver.Ends whileReachable (pauseAfter h i total) (fun _ s' => s' = s)
      (fun _ _ => False) s := by
  unfold pauseAfter
  split
  · refine ⟨trivial, fun (interrupted : Bool) (hint : interrupted = false) => ?_⟩
    subst hint
    rfl
  · rfl

theorem sendJointPositions_ready {h : TrajectoryHandler} {s : ClientState} (hs : s.Ready h)
    {jointPositions : List ℚ} (hcount : jointPositions.length = 6) :
    driver.Ends whileReachable (sendJointPositions c jointPositions)
      (fun b s' => b = true ∧ s' = s.wrote [encodeLine c jointPositions])
      (fun _ _ => False) s := by
  obtain ⟨i, hi, huse⟩ := hs.isOpen
  refine sendJointPositions_enter (T := (· = s)) ?_ (fun hne => absurd hcount hne) ?_
  · exact ⟨trivial, fun _ _ => ⟨fun hdis => absurd (hs.connected.symm.trans hdis) nofun,
      fun _ => rfl⟩⟩
  · rintro _ s rfl
    refine ⟨trivial, fun (out : SendOutcome _) (hout : out = .whole) => ?_⟩
    subst hout
    simp [ClientState.sendallLocked, hi, huse, SendOutcome.cutOn, ClientState.wrote]

/-- Ready before the loop, all lines written and ready after it. -/
theorem sendPoints_ready {h : TrajectoryHandler} (total i : Nat)
    {points : List JointTrajectoryPoint} (hcount : ∀ p ∈ points, p.positions.length = 6)
    {s : ClientState} (hs : s.Ready h) :
    driver.Ends whileReachable (sendPoints c h total i points)
      (fun b s' => b = true ∧
        s'.sends = (s.wrote (points.map (encodeLine c ·.positions))).sends)
      (fun _ _ => False) s := by
  induction points generalizing i s with
  | nil =>
      refine ⟨trivial, fun _ _ => ⟨rfl, ?_⟩⟩
      rw [List.map_nil, ClientState.wrote_nil]
      rfl
  | cons point rest ih =>
      obtain ⟨hpoint, hrest⟩ := List.forall_mem_cons.mp hcount
      refine sendPoints_round_written (T := (· = s))
        (W := (· = s.wrote [encodeLine c point.positions])) hpoint (interrupted_ready hs) ?_ ?_
      · rintro _ rfl
        exact sendJointPositions_ready hs hpoint
      · rintro _ rfl
        refine Machine.wp_seq (pauseAfter_ready h i total _) ?_ fun _ _ he => he
        rintro _ s₃ rfl
        refine Machine.wp_mono ?_ (fun _ _ he => he) (ih (i + 1) hrest (hs.wrote _))
        intro b s' hpost
        rcases hpost with ⟨hb, hsends⟩
        rw [ClientState.wrote_wrote] at hsends
        exact ⟨hb, hsends⟩

/-- A client that is ready to execute a trajectory. -/
structure ClientState.Serving (s : ClientState) : Prop where
  connected : s.connected = true
  isOpen : s.Open
  running : s.shutdown = false

/-- While every operation succeeds, every point of six positions is written. -/
theorem executeTrajectory_written (h : TrajectoryHandler) {trajectory : JointTrajectory}
    (hne : trajectory.points.length ≠ 0)
    (hcount : ∀ p ∈ trajectory.points, p.positions.length = 6) {s : ClientState}
    (hs : s.Serving) :
    driver.Ends whileReachable (executeTrajectory c h trajectory)
      (fun b s' => b = true ∧
        s'.sends = (s.wrote (trajectory.points.map (encodeLine c ·.positions))).sends)
      (fun _ _ => False) s := by
  refine executeTrajectory_enter (T := (· = s)) ?_ (fun hempty => absurd hempty hne) ?_
  · exact ⟨trivial, fun _ _ => ⟨fun hdis => absurd (hs.connected.symm.trans hdis) nofun,
      fun _ => rfl⟩⟩
  · rintro _ s rfl
    refine ⟨trivial, fun _ _ => ?_⟩
    have hready : ({ s with executing := Function.update s.executing h.id true } :
        ClientState).Ready h :=
      ⟨hs.connected, hs.isOpen, hs.running, Function.update_self _ _ _⟩
    exact sendPoints_ready _ 0 hcount hready

theorem success_whileReachable (s : ClientState) (o : DriverOp) :
    whileReachable s o o.success := by
  cases o with
  | lockedRecv _ _ => exact ⟨[], rfl⟩
  | _ => trivial

/-! ## A disconnected client -/

theorem executeTrajectory_refused {R : driver.Rely} (h : TrajectoryHandler)
    (trajectory : JointTrajectory) {s : ClientState} (hs : s.connected = false) :
    driver.Ends R (executeTrajectory c h trajectory) (fun b s' => b = false ∧ s' = s)
      (fun _ _ => False) s := by
  refine ⟨trivial, fun _ _ => ?_⟩
  show driver.wp R _ (if !s.connected then _ else _) _ _ s
  rw [hs]
  exact ⟨rfl, rfl⟩

/-- Nothing leaves a disconnected state. -/
theorem Executed.disconnected {s s' : ClientState} (h : Executed c s s')
    (hs : s.connected = false) : s' = s := by
  induction h with
  | refl => rfl
  | tail _ hrun ih =>
      subst ih
      obtain ⟨h, trajectory, r, hsteps⟩ := hrun
      cases r with
      | ok b => exact (Machine.wp_returns (executeTrajectory_refused h trajectory hs) hsteps).2
      | error e =>
          exact (Machine.wp_raises (executeTrajectory_refused h trajectory hs) hsteps).elim

/-- **Recovery.** In every state reachable after a successful start-up, once
every socket operation succeeds, a non-empty trajectory of six-position points
is written completely and returns `True` if the client is still connected; if
it is not, the trajectory is refused, nothing is written, and every later
trajectory meets the same state. -/
theorem executeTrajectory_recovery (h : TrajectoryHandler) {trajectory : JointTrajectory}
    (hne : trajectory.points ≠ []) (hcount : ∀ p ∈ trajectory.points, p.positions.length = 6)
    {s : ClientState} (hs : Reachable c s) :
    driver.Ends whileReachable (executeTrajectory c h trajectory)
      (fun b s' => b = s.connected ∧ s'.sends = s.sends ++
        if s.connected then
          trajectory.points.map fun p => ⟨s.socket, encodeLine c p.positions, none⟩
        else [])
      (fun _ _ => False) s ∧
    (s.connected = false → ∀ s', Executed c s s' → s' = s) := by
  refine ⟨?_, fun hdis s' hexec => hexec.disconnected hdis⟩
  cases hc : s.connected with
  | false =>
      refine Machine.wp_mono ?_ (fun _ _ he => he) (executeTrajectory_refused h trajectory hc)
      intro b s' hpost
      rcases hpost with ⟨hb, rfl⟩
      exact ⟨hb, by simp⟩
  | true =>
      obtain ⟨hlink, hup⟩ := hs.invariant
      have hlen : trajectory.points.length ≠ 0 := by simpa using hne
      refine Machine.wp_mono ?_ (fun _ _ he => he)
        (executeTrajectory_written h hlen hcount ⟨hc, hlink hc, hup⟩)
      intro b s' hpost
      rcases hpost with ⟨hb, hsends⟩
      refine ⟨hb, ?_⟩
      rw [hsends, ClientState.wrote, List.map_map]
      rfl

/-- The client after a trajectory during which the robot was gone. -/
def gaveUp : ClientState :=
  (cutOff (executeTrajectory 57 (topicHandler 0.05) (onePoint 6)) started).2

theorem started_startUp : driver.Steps whileRunning (startUp, .init) (.ret (), started) :=
  smoothly_steps (fun _ o => by cases o <;> trivial) startUp .init

theorem gaveUp_reachable : Reachable 57 gaveUp := by
  refine ⟨started, started_startUp, .single ?_⟩
  have hresult : (cutOff (executeTrajectory 57 (topicHandler 0.05) (onePoint 6)) started).1 =
      .ok false := by decide +kernel
  refine ⟨topicHandler 0.05, onePoint 6, .ok false, ?_⟩
  rw [← hresult]
  exact cutOff_steps (fun _ o => by cases o <;> trivial) _ _

/-- `resent`, where a cut line was sent again, is reachable too. -/
theorem resent_reachable : Reachable 57 resent.2 := by
  have hpick : ∀ s o, whileRunning s o (DriverOp.firstBreaks s o) := by
    intro s o
    unfold DriverOp.firstBreaks
    -- a send may fail halfway while the node runs
    split
    · cases o with
      | lockedSendall raw => cases raw <;> trivial
      | _ => trivial
    · cases o <;> trivial
  refine ⟨started, started_startUp, .single ?_⟩
  exact ⟨topicHandler 0.05, threePoints, resent.1, Machine.run_steps hpick _ _⟩

/-- The last two of the three points. -/
def lastTwo : JointTrajectory := { threePoints with points := threePoints.points.tail }

/-- `executeTrajectory_recovery` where the client reconnected and where it gave up. -/
theorem executeTrajectory_recovery_afterFailures :
    (resent.2.connected = true ∧
      driver.Ends whileReachable (executeTrajectory 57 (topicHandler 0.05) lastTwo)
        (fun b s' => b = resent.2.connected ∧ s'.sends = resent.2.sends ++
          if resent.2.connected then
            lastTwo.points.map fun p => ⟨resent.2.socket, encodeLine 57 p.positions, none⟩
          else [])
        (fun _ _ => False) resent.2) ∧
    gaveUp.connected = false ∧ ∀ s', Executed 57 gaveUp s' → s' = gaveUp := by
  have hne : lastTwo.points ≠ [] := by decide
  have hcount : ∀ p ∈ lastTwo.points, p.positions.length = 6 := by decide
  have hback := executeTrajectory_recovery (topicHandler 0.05) hne hcount resent_reachable
  have hgone := executeTrajectory_recovery (topicHandler 0.05) hne hcount gaveUp_reachable
  have hoff : gaveUp.connected = false := by decide +kernel
  exact ⟨⟨by decide +kernel, hback.1⟩, hoff, hgone.2 hoff⟩

/-- The client does not recover from every reachable state: after a trajectory
whose `reconnect` gave up, a reachable robot gets nothing. -/
theorem executeTrajectory_not_recovered :
    ¬ ∀ (c : ℚ) (h : TrajectoryHandler) (trajectory : JointTrajectory) (s : ClientState),
      trajectory.points ≠ [] → (∀ p ∈ trajectory.points, p.positions.length = 6) →
      Reachable c s →
      driver.Ends whileReachable (executeTrajectory c h trajectory)
        (fun b s' => b = true ∧
          (trajectory.points.map (encodeLine c ·.positions)).Sublist (completeLines s'.sends))
        (fun _ _ => False) s := by
  intro hall
  have hends := hall 57 (topicHandler 0.05) (onePoint 6) gaveUp (by decide) (by decide)
    gaveUp_reachable
  have hresult : (smoothly (executeTrajectory 57 (topicHandler 0.05) (onePoint 6)) gaveUp).1 =
      .ok false := by decide +kernel
  have hsteps := smoothly_steps success_whileReachable
    (executeTrajectory 57 (topicHandler 0.05) (onePoint 6)) gaveUp
  rw [hresult] at hsteps
  exact Bool.false_ne_true (Machine.wp_returns hends hsteps).1

end HakRobot.Driver
