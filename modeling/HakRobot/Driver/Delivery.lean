import HakRobot.Driver.ClientSpec

/-!
# What a trajectory that returned `True` delivered

`execute_trajectory` skips a point with the wrong number of positions, and a
point whose send fails again on the new connection after a successful
`reconnect`. Its result does not tell: `True` only says that the loop reached
its end.

* `sendPoints_spec` — the run lemma of the loop, by induction on the points;
* `executeTrajectory_delivery` — the calls of a run that returned `True`, point
  by point, for every trajectory and every pattern of failures.
-/

namespace HakRobot.Driver

open HakRobot.Proc

variable {R : driver.Rely} {c : ℚ}

/-- A `sendall` of the line of `point` that failed. -/
def FailedFor (c : ℚ) (point : JointTrajectoryPoint) (x : Send) : Prop :=
  x.line = encodeLine c point.positions ∧ ¬ x.Whole

/-- The `sendall` calls of a loop that reached its end. -/
inductive Delivery (c : ℚ) : List JointTrajectoryPoint → List Send → Prop
  | done : Delivery c [] []
  | skipped {point : JointTrajectoryPoint} {rest : List JointTrajectoryPoint} {w : List Send}
      (hcount : point.positions.length ≠ 6) (hrest : Delivery c rest w) :
      Delivery c (point :: rest) w
  | written {point : JointTrajectoryPoint} {rest : List JointTrajectoryPoint}
      {tries w : List Send} {x : Send}
      (hcount : point.positions.length = 6)
      (htries : tries.length ≤ 1 ∧ ∀ t ∈ tries, FailedFor c point t)
      (hline : x.line = encodeLine c point.positions) (hwhole : x.Whole)
      (hrest : Delivery c rest w) :
      Delivery c (point :: rest) (tries ++ x :: w)
  /-- every try failed, the last one on a connection of its own -/
  | lost {point : JointTrajectoryPoint} {rest : List JointTrajectoryPoint}
      {tries w : List Send} {x : Send}
      (hcount : point.positions.length = 6)
      (htries : tries.length ≤ 1 ∧ ∀ t ∈ tries, FailedFor c point t)
      (hresend : FailedFor c point x) (hnew : ∀ t ∈ tries, t.sock ≠ x.sock)
      (hrest : Delivery c rest w) :
      Delivery c (point :: rest) (tries ++ x :: w)

/-- The lines of the calls that returned, in their order. One that follows a cut line
on the same connection is read by the robot as the rest of that line. -/
def completeLines (w : List Send) : List (List Char) := (w.filter (·.Whole)).map Send.line

theorem completeLines_append (v w : List Send) :
    completeLines (v ++ w) = completeLines v ++ completeLines w := by
  simp [completeLines]

theorem completeLines_failed {point : JointTrajectoryPoint} {tries : List Send}
    (h : ∀ t ∈ tries, FailedFor c point t) : completeLines tries = [] := by
  have hnone : tries.filter (·.Whole) = [] := by
    rw [List.filter_eq_nil_iff]
    intro t ht
    simpa using (h t ht).2
  rw [completeLines, hnone, List.map_nil]

/-- The complete lines are lines of the six-position points, in their order and
each at most once. -/
theorem Delivery.completeLines_sublist {points : List JointTrajectoryPoint} {w : List Send}
    (h : Delivery c points w) :
    (completeLines w).Sublist
      ((points.filter (·.positions.length = 6)).map (encodeLine c ·.positions)) := by
  induction h with
  | done => exact List.Sublist.refl _
  | skipped hcount _ ih => simpa [hcount] using ih
  | @written point rest tries w x hcount htries hline hwhole _ ih =>
      rw [completeLines_append, completeLines_failed htries.2, List.nil_append]
      have hx : completeLines (x :: w) = x.line :: completeLines w := by
        simp [completeLines, hwhole]
      rw [hx, hline]
      simpa [hcount] using ih
  | @lost point rest tries w x hcount htries hresend _ _ ih =>
      rw [completeLines_append, completeLines_failed htries.2, List.nil_append]
      have hx : completeLines (x :: w) = completeLines w := by
        simp [completeLines, hresend.2]
      rw [hx]
      simpa [hcount] using ih.cons _

/-- The last try to send `point` failed. -/
def Lost (c : ℚ) (point : JointTrajectoryPoint) (w : List Send) : Prop :=
  ∃ x, w.getLast? = some x ∧ FailedFor c point x

/-- A loop over one point of six positions wrote its line or lost it. -/
theorem Delivery.single {point : JointTrajectoryPoint} {w : List Send}
    (h : Delivery c [point] w) (hcount : point.positions.length = 6) :
    encodeLine c point.positions ∈ completeLines w ∨ Lost c point w := by
  cases h with
  | skipped hne _ => exact absurd hcount hne
  | @written _ _ tries w' x _ htries hline hwhole hrest =>
      refine .inl ?_
      rw [completeLines_append, ← hline]
      exact List.mem_append_right _ (by simp [completeLines, hwhole])
  | @lost _ _ tries w' x _ htries hresend hnew hrest =>
      cases hrest with
      | done => exact .inr ⟨x, by simp, hresend⟩

/-! ## The parts of the loop -/

theorem interrupted_spec (h : TrajectoryHandler) (s : ClientState) :
    driver.Ends R (interrupted h) (fun _ s' => s'.sends = s.sends ∧ (s.Linked → s'.Linked))
      (fun _ _ => False) s := by
  refine ⟨trivial, fun now _ => ?_⟩
  show driver.wp R _ (if (s.shutdown || (now : Bool)) then _ else _) _ _ _
  cases s.shutdown || (now : Bool) with
  | true => exact ⟨rfl, id⟩
  | false => exact ⟨trivial, fun _ _ => ⟨rfl, id⟩⟩

theorem pauseAfter_spec (h : TrajectoryHandler) (i total : Nat) (s : ClientState) :
    driver.Ends R (pauseAfter h i total) (fun _ s' => s' = s) (fun _ s' => s' = s) s := by
  unfold pauseAfter
  split
  · refine ⟨trivial, fun interrupted _ => ?_⟩
    cases interrupted with
    | false => rfl
    | true => rfl
  · rfl

/-- A first send that failed: at most one call, on a socket made before. -/
def TriedOnce (c : ℚ) (point : JointTrajectoryPoint) (s t : ClientState) (tries : List Send) :
    Prop :=
  (tries.length ≤ 1 ∧ ∀ x ∈ tries, FailedFor c point x) ∧
    (∀ x ∈ tries, ∃ i, x.sock = some i ∧ i < t.created) ∧ t.sends = s.sends ++ tries

theorem firstTry_spec (point : JointTrajectoryPoint) (s : ClientState) :
    driver.Ends R (sendJointPositions c point.positions)
      (fun b s' => (s.Linked → s'.Linked) ∧
        (b = true → ∃ x : Send, x.line = encodeLine c point.positions ∧ x.Whole ∧
          s'.sends = s.sends ++ [x]) ∧
        (b = false → ∃ tries, TriedOnce c point s s' tries))
      (fun _ s' => s.Linked → s'.Linked) s := by
  refine Machine.wp_mono ?_ (fun _ _ he => he) (sendJointPositions_spec c point.positions s)
  intro b s' hpost
  rcases hpost with ⟨hlink, ⟨hc, _, x, hline, ⟨i, hsock, hi⟩, hwhole, rfl⟩ | ⟨_, rfl, rfl⟩⟩
  · refine ⟨hlink, fun hb => ⟨x, hline, hwhole.mp hb, rfl⟩, fun hb => ⟨[x], ?_, ?_, rfl⟩⟩
    · refine ⟨le_rfl, fun t ht => ?_⟩
      rw [List.mem_singleton] at ht
      subst ht
      exact ⟨hline, fun hx => by simp [hwhole.mpr hx] at hb⟩
    · intro t ht
      rw [List.mem_singleton] at ht
      subst ht
      exact ⟨i, hsock, s.socket_lt i hi⟩
  · exact ⟨hlink, fun hb => absurd hb (by simp), fun _ => ⟨[], by simp, by simp, by simp⟩⟩

/-- A resend is one call, on the connection `reconnect` made. -/
theorem resend_spec (point : JointTrajectoryPoint) (hcount : point.positions.length = 6)
    {s₀ s : ClientState} (hs : s₀.Connects true s) :
    driver.Ends R (sendJointPositions c point.positions)
      (fun b s' => s'.Linked ∧ ∃ x : Send,
        x.line = encodeLine c point.positions ∧ (∃ i, x.sock = some i ∧ s₀.created ≤ i) ∧
        (b = true ↔ x.Whole) ∧ s'.sends = s.sends ++ [x])
      (fun _ s' => s'.Linked) s := by
  refine Machine.wp_mono ?_ (fun _ _ he => he hs.linked)
    (sendJointPositions_spec c point.positions s)
  intro b s' hpost
  rcases hpost with ⟨hlink, ⟨_, _, x, hline, ⟨i, hsock, hi⟩, hwhole, rfl⟩ | ⟨hne, _⟩⟩
  · obtain ⟨j, hj, hsocket, _⟩ := hs.reopened rfl
    rw [hi] at hsocket
    obtain rfl : i = j := Option.some.inj hsocket
    exact ⟨hlink hs.linked, x, hline, ⟨i, hsock, hj⟩, hwhole, rfl⟩
  · rcases hne with hne | hne
    · exact absurd (hs.connected.symm.trans hne) (by simp)
    · exact absurd hcount hne

/-! ## The loop -/

/-- What every run of the loop over `points` started in `s` has done when it
ends. -/
def LoopEnds (c : ℚ) (points : List JointTrajectoryPoint) (s : ClientState) (b : Bool)
    (s' : ClientState) : Prop :=
  (s.Linked → s'.Linked) ∧ (b = true → ∃ w, s'.sends = s.sends ++ w ∧ Delivery c points w)

/-- The loop over `rest`, after the calls `v` for its first point. -/
theorem LoopEnds.cons {p : Method Bool} {point : JointTrajectoryPoint}
    {rest : List JointTrajectoryPoint} {s t : ClientState} {v : List Send}
    (hp : driver.Ends R p (LoopEnds c rest t) (fun _ s' => t.Linked → s'.Linked) t)
    (hlink : s.Linked → t.Linked) (hsends : t.sends = s.sends ++ v)
    (hpoint : ∀ w, Delivery c rest w → Delivery c (point :: rest) (v ++ w)) :
    driver.Ends R p (LoopEnds c (point :: rest) s) (fun _ s' => s.Linked → s'.Linked) t := by
  refine Machine.wp_mono ?_ (fun _ _ he hs => he (hlink hs)) hp
  intro b s' hpost
  rcases hpost with ⟨hs', htrue⟩
  refine ⟨fun hs => hs' (hlink hs), fun hb => ?_⟩
  obtain ⟨w, hw, hd⟩ := htrue hb
  exact ⟨v ++ w, by rw [hw, hsends, List.append_assoc], hpoint w hd⟩

/-- A loop that stops with `False` promises nothing about its points. -/
theorem LoopEnds.stop {h : TrajectoryHandler} {points : List JointTrajectoryPoint}
    {s t : ClientState} (hlink : s.Linked → t.Linked) :
    driver.Ends R (do writeExecuting h false; return false) (LoopEnds c points s)
      (fun _ s' => s.Linked → s'.Linked) t :=
  ⟨trivial, fun _ _ => ⟨hlink, fun hb => absurd hb Bool.false_ne_true⟩⟩

/-- The calls for the first point so far, and what they come to with those for the
rest. -/
def Settles (c : ℚ) (point : JointTrajectoryPoint) (rest : List JointTrajectoryPoint)
    (s t : ClientState) : Prop :=
  (s.Linked → t.Linked) ∧ ∃ v, t.sends = s.sends ++ v ∧
    ∀ w, Delivery c rest w → Delivery c (point :: rest) (v ++ w)

theorem Settles.loopEnds {p : Method Bool} {point : JointTrajectoryPoint}
    {rest : List JointTrajectoryPoint} {s t : ClientState} (ht : Settles c point rest s t)
    (hp : driver.Ends R p (LoopEnds c rest t) (fun _ s' => t.Linked → s'.Linked) t) :
    driver.Ends R p (LoopEnds c (point :: rest) s) (fun _ s' => s.Linked → s'.Linked) t := by
  obtain ⟨hlink, v, hsends, hpoint⟩ := ht
  exact LoopEnds.cons hp hlink hsends hpoint

/-- A call on the new connection is on another socket than those before. -/
theorem TriedOnce.resent {point : JointTrajectoryPoint} {s t u u' : ClientState}
    {tries : List Send} (htries : TriedOnce c point s t tries) (hnew : t.Connects true u)
    {x : Send} (hsock : ∃ i, x.sock = some i ∧ t.created ≤ i)
    (hsends : u'.sends = u.sends ++ [x]) :
    u'.sends = s.sends ++ (tries ++ [x]) ∧ ∀ y ∈ tries, y.sock ≠ x.sock := by
  obtain ⟨_, hold, hsent⟩ := htries
  obtain ⟨i, hi, hle⟩ := hsock
  constructor
  · rw [hsends, hnew.quiet.sends, hsent, List.append_assoc]
  · intro y hy heq
    obtain ⟨j, hj, hlt⟩ := hold y hy
    rw [hj, hi, Option.some.injEq] at heq
    omega

/-- One round of the loop, by the path the round takes, and then the rest. -/
theorem sendPoints_spec (h : TrajectoryHandler) (total i : Nat)
    (points : List JointTrajectoryPoint) (s : ClientState) :
    driver.Ends R (sendPoints c h total i points) (LoopEnds c points s)
      (fun _ s' => s.Linked → s'.Linked) s := by
  induction points generalizing i s with
  | nil => exact ⟨trivial, fun _ _ => ⟨id, fun _ => ⟨[], (List.append_nil _).symm, .done⟩⟩⟩
  | cons point rest ih =>
      have hpause : ∀ t : ClientState,
          driver.Ends R (do pauseAfter h i total; sendPoints c h total (i + 1) rest)
            (LoopEnds c rest t) (fun _ s' => t.Linked → s'.Linked) t := by
        intro t
        refine Machine.wp_seq (pauseAfter_spec h i total t) ?_ ?_
        · rintro _ t' rfl
          exact ih (i + 1) t'
        · rintro _ t' rfl
          exact id
      let Tested (t : ClientState) : Prop := t.sends = s.sends ∧ (s.Linked → t.Linked)
      let Failed (t : ClientState) : Prop := ∃ tries, TriedOnce c point s t tries
      refine sendPoints_round (T := Tested) (F := Failed)
        (A := fun u => ∃ t, Failed t ∧ t.Connects true u)
        (W := Settles c point rest s) (L := Settles c point rest s)
        (X := fun t => s.Linked → t.Linked) ?_ ?_ ?_ ?_ ?_ ?_ ?_ ?_
      · -- the test
        refine Machine.wp_mono ?_ (fun _ _ he => he.elim) (interrupted_spec h s)
        exact fun _ t ht => ⟨fun _ => ht.2, fun _ => ht⟩
      · -- skipped
        intro hcount t ht
        refine Settles.loopEnds ⟨ht.2, [], ?_, fun w hw => .skipped hcount hw⟩ (ih (i + 1) t)
        rw [ht.1, List.append_nil]
      · -- the first send
        intro hcount t ht
        refine Machine.wp_mono ?_ (fun _ _ he hs => he (ht.2 hs)) (firstTry_spec point t)
        intro b t' hpost
        rcases hpost with ⟨hlink, hsent, hfailed⟩
        unfold TriedOnce at hfailed
        rw [ht.1] at hsent hfailed
        refine ⟨fun hb => ?_, hfailed⟩
        obtain ⟨x, hline, hwhole, hsends⟩ := hsent hb
        refine ⟨fun hs => hlink (ht.2 hs), [x], hsends, fun w hw => ?_⟩
        exact @Delivery.written c point rest [] w x hcount (by simp) hline hwhole hw
      · -- the reconnection
        intro _ t ht
        refine Machine.wp_mono ?_ (fun _ _ he => he.elim) (reconnect_spec 3 t)
        intro b u hu
        exact ⟨fun hb => ⟨t, ht, hb ▸ hu⟩, fun _ _ => hu.linked⟩
      · -- the resend
        intro hcount u hu
        obtain ⟨t, ⟨tries, htries⟩, hnew⟩ := hu
        refine Machine.wp_mono ?_ (fun _ _ he _ => he) (resend_spec point hcount hnew)
        intro b u' hpost
        rcases hpost with ⟨hlink, x, hline, hsock, hwhole, hsends⟩
        obtain ⟨hall, hother⟩ := htries.resent hnew hsock hsends
        constructor
        · intro hb
          refine ⟨fun _ => hlink, tries ++ [x], hall, fun w hw => ?_⟩
          simpa using Delivery.written hcount htries.1 hline (hwhole.mp hb) hw
        · intro hb
          have hcut : ¬ x.Whole := fun hx => Bool.false_ne_true (hb.symm.trans (hwhole.mpr hx))
          refine ⟨fun _ => hlink, tries ++ [x], hall, fun w hw => ?_⟩
          simpa using Delivery.lost hcount htries.1 ⟨hline, hcut⟩ hother hw
      · exact fun _ t ht => ht.loopEnds (hpause t)
      · exact fun _ t ht => ht.loopEnds (ih (i + 1) t)
      · exact fun t ht => LoopEnds.stop ht

theorem executeTrajectory_spec (h : TrajectoryHandler) (trajectory : JointTrajectory)
    (s : ClientState) :
    driver.Ends R (executeTrajectory c h trajectory) (LoopEnds c trajectory.points s)
      (fun _ s' => s.Linked → s'.Linked) s := by
  have hrefuse : LoopEnds c trajectory.points s false s :=
    ⟨id, fun hb => absurd hb Bool.false_ne_true⟩
  refine executeTrajectory_enter (T := (· = s)) ?_ ?_ ?_
  · exact ⟨trivial, fun _ _ => ⟨fun _ => hrefuse, fun _ => rfl⟩⟩
  · rintro _ _ rfl
    exact hrefuse
  · rintro _ s rfl
    refine ⟨trivial, fun _ _ => ?_⟩
    exact sendPoints_spec h _ 0 trajectory.points
      { s with executing := Function.update s.executing h.id true }

/-- **Delivery.** If `execute_trajectory` returned `True`, the calls it made are,
point by point in trajectory order: none for a point that does not have six
positions; otherwise one complete line of the point, after at most one failed
try, or only failed tries of which the last was on a new connection. So the
lines it wrote whole are lines of the six-position points, in their order and
each at most once. -/
theorem executeTrajectory_delivery (h : TrajectoryHandler) (trajectory : JointTrajectory)
    {s s' : ClientState}
    (hrun : driver.Steps driver.anyChoice (executeTrajectory c h trajectory, s) (.ret true, s')) :
    ∃ w, s'.sends = s.sends ++ w ∧ Delivery c trajectory.points w ∧
      (completeLines w).Sublist
        ((trajectory.points.filter (·.positions.length = 6)).map (encodeLine c ·.positions)) := by
  obtain ⟨w, hw, hd⟩ :=
    (Machine.wp_returns (executeTrajectory_spec h trajectory s) hrun).2 rfl
  exact ⟨w, hw, hd, hd.completeLines_sublist⟩

/-- A goal that the action server reports as `SUCCESSFUL` was delivered as much
as its trajectory. -/
theorem executeCallback_delivery (h : TrajectoryHandler) (goal : JointTrajectory)
    {s s' : ClientState}
    (hrun : driver.Steps driver.anyChoice (executeCallback c h goal, s)
      (.ret (.succeeded SUCCESSFUL), s')) :
    ∃ w, s'.sends = s.sends ++ w ∧ Delivery c goal.points w := by
  have hspec : driver.Ends driver.anyChoice (executeCallback c h goal)
      (fun r s' => r = .succeeded SUCCESSFUL →
        ∃ w, s'.sends = s.sends ++ w ∧ Delivery c goal.points w) (fun _ _ => True) s := by
    refine Machine.wp_seq (executeTrajectory_spec h goal s) ?_ fun _ _ _ => trivial
    intro b s₁ hpost
    rcases hpost with ⟨_, hdone⟩
    cases b with
    | true => exact fun _ => hdone rfl
    | false => exact fun hr => absurd hr (by simp)
  exact Machine.wp_returns hspec hrun rfl

/-! ## Runs with fixed outcomes -/

/-- Every operation succeeds. -/
def DriverOp.success : (o : DriverOp) → o.Choice
  | .newSocket | .setsockopt | .settimeout _ | .socketConnect | .lockedDisconnect => true
  | .lockedSendall _ => .whole
  | .lockedRecv _ _ => .data []
  | .isShutdown | .rospySleep _ => false
  | .readConnected | .writeConnected _ | .sleep _ | .readExecuting _ | .writeExecuting _ _ => ()

/-- The robot is gone: a send is cut at once, and no connection is accepted. -/
def DriverOp.unreachable : (o : DriverOp) → o.Choice
  | .lockedSendall [] => .whole
  | .lockedSendall (_ :: _) => .cut 0
  | .socketConnect => false
  | o => o.success

/-- A send fails halfway; everything else succeeds. -/
def DriverOp.halfway : (o : DriverOp) → o.Choice
  | .lockedSendall [] => .whole
  | .lockedSendall (_ :: rest) => .cut ⟨rest.length / 2, Nat.lt_succ_of_le (Nat.div_le_self _ _)⟩
  | o => o.success

/-- A run of `p` in which every operation succeeds. -/
def smoothly {α : Type} (p : Method α) (s : ClientState) : Except PyException α × ClientState :=
  driver.run (fun _ => DriverOp.success) p s

/-- A run of `p` while the robot is gone. -/
def cutOff {α : Type} (p : Method α) (s : ClientState) : Except PyException α × ClientState :=
  driver.run (fun _ => DriverOp.unreachable) p s

/-- The first connection breaks under the first line it is to carry; everything
else succeeds. -/
def DriverOp.firstBreaks (s : ClientState) (o : DriverOp) : o.Choice :=
  if s.socket = some 0 then o.halfway else o.success

theorem smoothly_steps (hR : ∀ s (o : DriverOp), R s o o.success) {α : Type} (p : Method α)
    (s : ClientState) :
    driver.Steps R (p, s) (.ofExcept (smoothly p s).1, (smoothly p s).2) :=
  Machine.run_steps hR p s

theorem cutOff_steps (hR : ∀ s (o : DriverOp), R s o o.unreachable) {α : Type} (p : Method α)
    (s : ClientState) :
    driver.Steps R (p, s) (.ofExcept (cutOff p s).1, (cutOff p s).2) :=
  Machine.run_steps hR p s

/-- The client after a start-up without failures. -/
def started : ClientState := (smoothly startUp .init).2

/-- A trajectory of one point with `n` positions. -/
def onePoint (n : Nat) : JointTrajectory := ⟨0, [], [⟨List.replicate n 0, [], [], 1⟩]⟩

/-- A point without its last position and two complete ones. -/
def threePoints : JointTrajectory :=
  ⟨0, [], [⟨[0, 1 / 2, 1, 0, -1 / 2], [], [], 1⟩, ⟨[1 / 4, -1 / 2, 1, 0, 3 / 4, 2], [], [], 2⟩,
    ⟨[1 / 2, -1, 1, 0, 1 / 2, 1], [], [], 3⟩]⟩

/-- The three points sent over a connection that breaks: the line of the second
one is cut and sent again. -/
def resent : Except PyException Bool × ClientState :=
  driver.run DriverOp.firstBreaks (executeTrajectory 57 (topicHandler 0.05) threePoints) started

/-- `executeTrajectory_delivery` for these points: the first one is skipped, and
both others are written. -/
theorem executeTrajectory_delivery_resent :
    completeLines resent.2.sends =
        [encodeLine 57 [1 / 4, -1 / 2, 1, 0, 3 / 4, 2],
          encodeLine 57 [1 / 2, -1, 1, 0, 1 / 2, 1]] ∧
      resent.2.sends.length = 3 ∧
      ∃ w, resent.2.sends = started.sends ++ w ∧ Delivery 57 threePoints.points w ∧
        (completeLines w).Sublist
          ((threePoints.points.filter (·.positions.length = 6)).map
            (encodeLine 57 ·.positions)) := by
  have hresult : resent.1 = .ok true := by decide +kernel
  have hrun : driver.Steps driver.anyChoice
      (executeTrajectory 57 (topicHandler 0.05) threePoints, started)
      (.ofExcept resent.1, resent.2) := Machine.run_steps (fun _ _ => trivial) _ _
  rw [hresult] at hrun
  exact ⟨by decide +kernel, by decide +kernel,
    executeTrajectory_delivery (topicHandler 0.05) threePoints hrun⟩

/-- `True` does not mean that every point was written: a point with five
positions is skipped. -/
theorem executeTrajectory_skips :
    ¬ ∀ (c : ℚ) (h : TrajectoryHandler) (trajectory : JointTrajectory) (s s' : ClientState),
      driver.Steps driver.anyChoice (startUp, .init) (.ret (), s) →
      driver.Steps driver.anyChoice (executeTrajectory c h trajectory, s) (.ret true, s') →
      ∃ w, s'.sends = s.sends ++ w ∧
        (trajectory.points.map (encodeLine c ·.positions)).Sublist (completeLines w) := by
  intro hall
  have hresult : (smoothly (executeTrajectory 57 (topicHandler 0.05) (onePoint 5)) started).1 =
      .ok true := by decide +kernel
  have hrun := smoothly_steps (R := driver.anyChoice) (fun _ _ => trivial)
    (executeTrajectory 57 (topicHandler 0.05) (onePoint 5)) started
  rw [hresult] at hrun
  obtain ⟨w, hw, hsub⟩ := hall 57 (topicHandler 0.05) (onePoint 5) started _
    (smoothly_steps (fun _ _ => trivial) startUp .init) hrun
  have hnone : (smoothly (executeTrajectory 57 (topicHandler 0.05) (onePoint 5)) started).2.sends =
      [] := by decide +kernel
  rw [hnone] at hw
  obtain ⟨_, rfl⟩ := List.append_eq_nil_iff.mp hw.symm
  have hlen := hsub.length_le
  exact absurd hlen (by decide)

end HakRobot.Driver
