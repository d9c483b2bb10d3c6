import HakRobot.Driver.JointOrder
import HakRobot.Geometry.Quaternion
import HakRobot.Proc.Trace

/-!
# The demo scripts and the driver

The scripts of `probot_hk_demo` plan a trajectory with MoveIt, execute it and publish it
on `joint_path_command`, which `hk_driver_node` subscribes to. Three of them plan a
Cartesian path and try again up to a hundred times; two plan to a joint target.

* `main_follows` — what a script does, whatever it is answered;
* `demo_delivered` — what a script publishes, and what the driver then sends, is the plan
  that was found complete and that MoveIt executed.
-/

namespace HakRobot.Demo

open HakRobot.Geometry HakRobot.Proc
open HakRobot.Driver

/-! ## Calls on MoveIt and ROS -/

/-- `geometry_msgs/Pose`. -/
structure Pose where
  position : Vec3 ℚ
  orientation : Quat ℚ

/-- A planned `RobotTrajectory`: its `joint_trajectory`. -/
abbrev Plan := JointTrajectory

/-- `configure` stands for the calls that set the script up. -/
inductive DemoOp
  | configure
  | getCurrentJointValues
  | getCurrentPose
  | setJointValueTarget (target : List ℚ)
  | go
  | stop
  | setStartStateToCurrentState
  | plan
  | computeCartesianPath (waypoints : List Pose)
  | execute (plan : Plan) (wait : Bool)
  | now
  | publish (msg : JointTrajectory)
  | rospySleep (seconds : ℚ)
  | roscppShutdown

/-- What a call returns: a plan comes with `success`, a path with its `fraction`. -/
abbrev DemoOp.Val : DemoOp → Type
  | .getCurrentJointValues => List ℚ
  | .getCurrentPose => Pose
  | .plan => Bool × Plan
  | .computeCartesianPath _ => Plan × ℚ
  | .go | .execute _ _ => Bool
  | .now => ℚ
  | .configure | .setJointValueTarget _ | .stop | .setStartStateToCurrentState
  | .publish _ | .rospySleep _ | .roscppShutdown => Unit

abbrev demoSig : Sig := ⟨DemoOp, fun o => Except PyException o.Val⟩

/-- A part of a script. -/
abbrev Script (α : Type) := Prog demoSig PyException α

def call (o : DemoOp) : Script o.Val := (Prog.perform (σ := demoSig) o).bind .ofExcept

/-! ## The scripts -/

/-- The copy of a point that is published. -/
def copyPoint (p : JointTrajectoryPoint) : JointTrajectoryPoint where
  positions := p.positions
  velocities := p.velocities
  accelerations := p.accelerations
  timeFromStart := p.timeFromStart

/-- `publish_to_driver`. -/
def publishToDriver (plan : Plan) : Script Unit := do
  let stamp ← call .now
  call (.publish ⟨stamp, plan.jointNames, plan.points.map copyPoint⟩)

/-- The loop over `compute_cartesian_path`, with so many tries left. -/
def tryPath (waypoints : List Pose) : Nat → Script (Option Plan)
  | 0 => return none
  | n + 1 => do
      let (plan, fraction) ← call (.computeCartesianPath waypoints)
      if fraction < 1 then
        tryPath waypoints n
      else
        return some plan

/-- The four waypoints: down or up, forward and sideways from the start. -/
def waypointsFrom (start : Pose) (dz dx dy : ℚ) : List Pose :=
  let p := start.position
  [start, { start with position := ⟨p.x, p.y, p.z + dz⟩ },
    { start with position := ⟨p.x + dx, p.y, p.z + dz⟩ },
    { start with position := ⟨p.x + dx, p.y + dy, p.z + dz⟩ }]

/-- The common part of the three scripts with a Cartesian path. -/
def cartesian (start : Script Pose) (dz dx dy : ℚ) : Script Unit := do
  let startPose ← start
  call .setStartStateToCurrentState
  match ← tryPath (waypointsFrom startPose dz dx dy) 100 with
  | none => call .roscppShutdown
  | some plan =>
      let _ ← call (.execute plan true)
      publishToDriver plan
      call (.rospySleep 1)
      call .roscppShutdown
      .raise .systemExit

/-- `moveit_cartesian_demo.py`. It ends with `os._exit`. -/
def moveitCartesianDemo : Script Unit :=
  cartesian (do
    call .configure
    call (.setJointValueTarget [0, 0, 0, 0, 0, 0])
    let _ ← call .go
    call .stop
    call (.rospySleep 1)
    call (.rospySleep (1 / 2))
    call .getCurrentPose) (-3 / 20) (3 / 20) (3 / 20)

/-- `moveit_demo.py`. It reads the pose before it waits for the publisher. -/
def moveitDemo : Script Unit :=
  cartesian (do
    call .configure
    let startPose ← call .getCurrentPose
    call (.rospySleep (1 / 2))
    return startPose) (-1 / 5) (1 / 5) (1 / 5)

/-- `calibration_helper.py`. -/
def calibrationHelper : Script Unit :=
  cartesian (do
    call .configure
    call (.rospySleep (1 / 2))
    call .getCurrentPose) 0 (1 / 10) 0

/-- The pause at the end, as long as the trajectory and a second more. -/
def pauseAfter (plan : Plan) : Script Unit :=
  match plan.points.getLast? with
  | some last => call (.rospySleep (last.timeFromStart + 1))
  | none => call (.rospySleep 3)

/-- The common part of the two scripts with a joint target, in degrees; `c` is the number
of degrees of one radian. -/
def jointMove (c : ℚ) (targetDeg : List ℚ) : Script Unit := do
  call .configure
  call (.rospySleep 1)
  let _ ← call .getCurrentJointValues
  call .setStartStateToCurrentState
  call (.setJointValueTarget (targetDeg.map (· / c)))
  let (success, plan) ← call .plan
  if success then
    let _ ← call (.execute plan false)
    publishToDriver plan
    pauseAfter plan
    call .roscppShutdown
    .raise .systemExit
  else
    call .roscppShutdown

/-- `calibration.py`. -/
def calibration (c : ℚ) : Script Unit := jointMove c [-189 / 50, -115 / 2, 8, -4, -65, 17 / 10]

/-- `dabaicalibration.py`. -/
def dabaicalibration (c : ℚ) : Script Unit := jointMove c [-8, -25, 0, 0, 45, 20]

inductive ScriptFile
  | moveitCartesianDemo
  | moveitDemo
  | calibrationHelper
  | calibration
  | dabaicalibration

def ScriptFile.body (c : ℚ) : ScriptFile → Script Unit
  | .moveitCartesianDemo => Demo.moveitCartesianDemo
  | .moveitDemo => Demo.moveitDemo
  | .calibrationHelper => Demo.calibrationHelper
  | .calibration => Demo.calibration c
  | .dabaicalibration => Demo.dabaicalibration c

/-- A script, with the handler around it. -/
def ScriptFile.main (c : ℚ) (file : ScriptFile) : Script Unit :=
  (file.body c).tryCatch fun e => if e = .rosInterrupt then .ret () else .raise e

/-! ## Views -/

/-- What a script has done: how often it asked for a path, the complete plan it was
answered last, what was executed and what was published. -/
structure DemoView where
  tries : Nat
  planned : Option Plan
  executed : Option Plan
  published : Bool

def DemoView.fresh : DemoView := ⟨0, none, none, false⟩

/-- A plan is complete when it came with success, or with the whole of the path. -/
def DemoView.next (v : DemoView) : (o : DemoOp) → Except PyException o.Val → DemoView
  | .computeCartesianPath _, .ok (plan, fraction) =>
      { v with tries := v.tries + 1, planned := if fraction < 1 then none else some plan }
  | .computeCartesianPath _, .error _ => { v with tries := v.tries + 1 }
  | .plan, .ok (success, plan) => { v with planned := if success then some plan else none }
  | .execute plan _, .ok _ => { v with executed := some plan }
  | .publish _, _ => { v with published := true }
  | _, _ => v

/-- Nothing is asked for once a plan is complete, nothing is executed twice and nothing
is published twice. -/
def DemoView.Allows (v : DemoView) : DemoOp → Prop
  | .computeCartesianPath _ => v.planned = none ∧ v.executed = none ∧ v.tries < 100
  | .plan => v.planned = none ∧ v.executed = none
  | .execute plan _ => v.planned = some plan ∧ v.executed = none ∧ v.published = false
  | .publish msg => v.published = false ∧ ∃ plan, v.executed = some plan ∧
      msg.jointNames = plan.jointNames ∧ msg.points = plan.points
  | _ => True

/-- From view `v`, `p` does only what its views allow, and returns in `Q`. -/
abbrev Follows {α : Type} (p : Script α) (Q : α → DemoView → Prop) (v : DemoView) : Prop :=
  (Machine.monitor demoSig DemoView.next).wp (Machine.anyChoice _) DemoView.Allows p Q
    (fun _ _ => True) v

variable {α : Type} {Q : α → DemoView → Prop} {v : DemoView} {c : ℚ}

/-- A call, and what follows its answer. -/
theorem call_then {o : DemoOp} {k : o.Val → Script α} (hallow : v.Allows o)
    (hk : ∀ a : o.Val, Follows (k a) Q (v.next o (.ok a))) : Follows ((call o).bind k) Q v := by
  refine ⟨hallow, fun (r : Except PyException o.Val) _ => ?_⟩
  cases r with
  | error e => exact trivial
  | ok a => exact hk a

/-- A script whose calls need no reason. -/
def Idle : DemoOp → Prop
  | .computeCartesianPath _ | .plan | .execute _ _ | .publish _ => False
  | _ => True

theorem idle_step {o : DemoOp} (ho : Idle o) (r : Except PyException o.Val) :
    v.Allows o ∧ v.next o r = v := by
  cases o with
  | computeCartesianPath w => exact ho.elim
  | plan => exact ho.elim
  | execute p w => exact ho.elim
  | publish m => exact ho.elim
  | configure => exact ⟨trivial, rfl⟩
  | getCurrentJointValues => exact ⟨trivial, rfl⟩
  | getCurrentPose => exact ⟨trivial, rfl⟩
  | setJointValueTarget t => exact ⟨trivial, rfl⟩
  | go => exact ⟨trivial, rfl⟩
  | stop => exact ⟨trivial, rfl⟩
  | setStartStateToCurrentState => exact ⟨trivial, rfl⟩
  | now => exact ⟨trivial, rfl⟩
  | rospySleep t => exact ⟨trivial, rfl⟩
  | roscppShutdown => exact ⟨trivial, rfl⟩

/-- Such a part of a script leaves the view as it is. -/
theorem idle_follows {p : Script α} (hp : p.Uses Idle) : Follows p (fun _ v' => v' = v) v := by
  have hall := Machine.wp_of_uses (M := Machine.monitor demoSig DemoView.next)
    (R := Machine.anyChoice _) (G := DemoView.Allows) (P := Idle) (I := fun v' => v' = v)
    (fun v' o hv' ho => ⟨(idle_step ho (.error .failure)).1, fun r _ => ?_⟩) hp rfl
  · exact Machine.wp_mono (fun _ _ h => h) (fun _ _ _ => trivial) hall
  · subst hv'
    exact (idle_step ho r).2

theorem call_idle {o : DemoOp} (ho : Idle o) : (call o).Uses Idle :=
  Prog.uses_bind ⟨ho, fun _ => trivial⟩ Prog.uses_ofExcept

/-! ## What the scripts do -/

theorem pauseAfter_idle (plan : Plan) : (pauseAfter plan).Uses Idle := by
  unfold pauseAfter
  cases plan.points.getLast? with
  | none => exact call_idle trivial
  | some last => exact call_idle trivial

theorem map_copyPoint (points : List JointTrajectoryPoint) : points.map copyPoint = points :=
  List.map_id points

theorem publishToDriver_follows {plan : Plan} (hexecuted : v.executed = some plan)
    (hpublished : v.published = false) :
    Follows (publishToDriver plan) (fun _ _ => True) v := by
  refine call_then trivial fun stamp => ?_
  refine ⟨⟨hpublished, plan, hexecuted, rfl, map_copyPoint plan.points⟩, fun r _ => ?_⟩
  cases r with
  | error e => exact trivial
  | ok _ => exact trivial

/-- The loop asks until a path is complete, or so many times. -/
theorem tryPath_follows (waypoints : List Pose) (n : Nat) (hplanned : v.planned = none)
    (hexecuted : v.executed = none) (hpublished : v.published = false)
    (htries : v.tries + n ≤ 100) :
    Follows (tryPath waypoints n) (fun plan v' => v'.planned = plan ∧ v'.executed = none ∧
      v'.published = false) v := by
  induction n generalizing v with
  | zero => exact ⟨hplanned, hexecuted, hpublished⟩
  | succ n ih =>
      refine call_then ⟨hplanned, hexecuted, by omega⟩ ?_
      rintro ⟨plan, fraction⟩
      show Follows (if fraction < 1 then tryPath waypoints n else .ret (some plan)) _ _
      by_cases hfull : fraction < 1
      · rw [if_pos hfull]
        refine ih ?_ hexecuted hpublished ?_
        · show (if fraction < 1 then none else some plan) = none
          rw [if_pos hfull]
        · show v.tries + 1 + n ≤ 100
          omega
      · rw [if_neg hfull]
        refine ⟨?_, hexecuted, hpublished⟩
        show (if fraction < 1 then none else some plan) = some plan
        rw [if_neg hfull]

/-- Execution and publication of a complete plan, and the end of a script. -/
theorem execute_follows {plan : Plan} {wait : Bool} {rest : Script Unit}
    (hplanned : v.planned = some plan) (hexecuted : v.executed = none)
    (hpublished : v.published = false) (hrest : rest.Uses Idle) :
    Follows ((call (.execute plan wait)).bind fun _ => (publishToDriver plan).bind fun _ => rest)
      (fun _ _ => True) v := by
  refine call_then ⟨hplanned, hexecuted, hpublished⟩ fun _ => ?_
  refine Machine.wp_seq (publishToDriver_follows rfl hpublished) ?_ fun _ _ _ => trivial
  exact fun _ _ _ => Machine.wp_mono (fun _ _ _ => trivial) (fun _ _ _ => trivial)
    (idle_follows hrest)

theorem cartesian_follows {start : Script Pose} (hstart : start.Uses Idle) (dz dx dy : ℚ) :
    Follows (cartesian start dz dx dy) (fun _ _ => True) .fresh := by
  refine Machine.wp_seq (idle_follows hstart) ?_ fun _ _ _ => trivial
  rintro startPose _ rfl
  refine call_then trivial fun _ => ?_
  have htries : DemoView.fresh.tries + 100 ≤ 100 := by
    show 0 + 100 ≤ 100
    omega
  refine Machine.wp_seq (tryPath_follows _ 100 rfl rfl rfl htries) ?_ fun _ _ _ => trivial
  rintro path v ⟨hplanned, hexecuted, hpublished⟩
  cases path with
  | none =>
      exact Machine.wp_mono (fun _ _ _ => trivial) (fun _ _ _ => trivial)
        (idle_follows (call_idle trivial))
  | some plan =>
      refine execute_follows hplanned hexecuted hpublished ?_
      exact Prog.uses_bind (call_idle trivial) fun _ =>
        Prog.uses_bind (call_idle trivial) fun _ => Prog.uses_raise _

theorem jointMove_follows (targetDeg : List ℚ) :
    Follows (jointMove c targetDeg) (fun _ _ => True) .fresh := by
  refine call_then trivial fun _ => call_then trivial fun _ => call_then trivial fun _ => ?_
  refine call_then trivial fun _ => call_then trivial fun _ => ?_
  refine call_then ⟨rfl, rfl⟩ ?_
  rintro ⟨success, plan⟩
  cases success with
  | false =>
      exact Machine.wp_mono (fun _ _ _ => trivial) (fun _ _ _ => trivial)
        (idle_follows (call_idle trivial))
  | true =>
      refine execute_follows rfl rfl rfl ?_
      exact Prog.uses_bind (pauseAfter_idle plan) fun _ =>
        Prog.uses_bind (call_idle trivial) fun _ => Prog.uses_raise _

theorem main_follows (file : ScriptFile) : Follows (file.main c) (fun _ _ => True) .fresh := by
  have hbody : Follows (file.body c) (fun _ _ => True) .fresh := by
    cases file with
    | calibration => exact jointMove_follows _
    | dabaicalibration => exact jointMove_follows _
    | moveitCartesianDemo =>
        refine cartesian_follows ?_ _ _ _
        refine Prog.uses_bind (call_idle (o := .configure) trivial) fun _ => ?_
        refine Prog.uses_bind (call_idle trivial) fun _ => Prog.uses_bind (call_idle trivial) ?_
        intro _
        refine Prog.uses_bind (call_idle trivial) fun _ => Prog.uses_bind (call_idle trivial) ?_
        exact fun _ => Prog.uses_bind (call_idle trivial) fun _ => call_idle trivial
    | moveitDemo =>
        refine cartesian_follows ?_ _ _ _
        refine Prog.uses_bind (call_idle (o := .configure) trivial) fun _ => ?_
        exact Prog.uses_bind (call_idle trivial) fun _ =>
          Prog.uses_bind (call_idle trivial) fun _ => Prog.uses_ret _
    | calibrationHelper =>
        refine cartesian_follows ?_ _ _ _
        refine Prog.uses_bind (call_idle (o := .configure) trivial) fun _ => ?_
        exact Prog.uses_bind (call_idle trivial) fun _ => call_idle trivial
  refine Machine.wp_catch hbody fun e v _ => ?_
  by_cases he : e = .rosInterrupt
  · rw [if_pos he]
    exact trivial
  · rw [if_neg he]
    exact trivial

/-! ## What happened before a view -/

def DemoOp.isPath : DemoOp → Bool
  | .computeCartesianPath _ => true
  | _ => false

def DemoOp.isPublish : DemoOp → Bool
  | .publish _ => true
  | _ => false

/-- An answer of MoveIt that has the whole of `plan`. -/
def Complete (plan : Plan) : Event demoSig → Prop
  | ⟨.computeCartesianPath _, .ok (path, fraction)⟩ => path = plan ∧ 1 ≤ fraction
  | ⟨.plan, .ok (success, planned)⟩ => planned = plan ∧ success = true
  | _ => False

/-- What a view says about the events that led to it. -/
structure Backed (past : List (Event demoSig)) (v : DemoView) : Prop where
  tries : past.countP (·.1.isPath) = v.tries
  few : v.tries ≤ 100
  planned : ∀ plan, v.planned = some plan → ∃ answer ∈ past, Complete plan answer
  executed : ∀ plan, v.executed = some plan → ∃ answer wait done, Complete plan answer ∧
    [answer, (⟨.execute plan wait, .ok done⟩ : Event demoSig)].Sublist past
  published : past.countP (·.1.isPublish) = if v.published then 1 else 0

theorem backed_nil : Backed [] .fresh where
  tries := rfl
  few := Nat.zero_le 100
  planned := nofun
  executed := nofun
  published := rfl

variable {o : DemoOp} {r : Except PyException o.Val} {past : List (Event demoSig)}

theorem next_tries : (v.next o r).tries = v.tries + if o.isPath then 1 else 0 := by
  cases o with
  | computeCartesianPath w =>
      cases r with
      | error e => rfl
      | ok answer => rfl
  | plan =>
      cases r with
      | error e => rfl
      | ok answer => rfl
  | execute plan wait =>
      cases r with
      | error e => rfl
      | ok done => rfl
  | _ => rfl

theorem next_published : (v.next o r).published = (o.isPublish || v.published) := by
  cases o with
  | computeCartesianPath w =>
      cases r with
      | error e => rfl
      | ok answer => rfl
  | plan =>
      cases r with
      | error e => rfl
      | ok answer => rfl
  | execute plan wait =>
      cases r with
      | error e => rfl
      | ok done => rfl
  | _ => rfl

/-- A plan that is complete was so before or is so by the answer. -/
theorem next_planned {plan : Plan} (h : (v.next o r).planned = some plan) :
    v.planned = some plan ∨ Complete plan ⟨o, r⟩ := by
  cases o with
  | computeCartesianPath w =>
      cases r with
      | error e => exact .inl h
      | ok answer =>
          obtain ⟨path, fraction⟩ := answer
          have hnext : (if fraction < 1 then none else some path) = some plan := h
          by_cases hfull : fraction < 1
          · rw [if_pos hfull] at hnext
            cases hnext
          · rw [if_neg hfull] at hnext
            exact .inr ⟨Option.some.inj hnext, not_lt.mp hfull⟩
  | plan =>
      cases r with
      | error e => exact .inl h
      | ok answer =>
          obtain ⟨success, planned⟩ := answer
          have hnext : (if success then some planned else none) = some plan := h
          cases success with
          | false => cases hnext
          | true => exact .inr ⟨Option.some.inj hnext, rfl⟩
  | execute plan' wait =>
      cases r with
      | error e => exact .inl h
      | ok done => exact .inl h
  | _ => exact .inl h

/-- A plan that was executed was so before or is so by the call. -/
theorem next_executed {plan : Plan} (h : (v.next o r).executed = some plan) :
    v.executed = some plan ∨ ∃ wait done,
      (⟨o, r⟩ : Event demoSig) = ⟨.execute plan wait, .ok done⟩ := by
  cases o with
  | execute plan' wait =>
      cases r with
      | error e => exact .inl h
      | ok done =>
          obtain rfl : plan' = plan := Option.some.inj h
          exact .inr ⟨wait, done, rfl⟩
  | computeCartesianPath w =>
      cases r with
      | error e => exact .inl h
      | ok answer => exact .inl h
  | plan =>
      cases r with
      | error e => exact .inl h
      | ok answer => exact .inl h
  | _ => exact .inl h

/-- Each event that a view allows leaves the next view backed. -/
theorem Backed.snoc (h : Backed past v) (e : Event demoSig) (hallow : v.Allows e.1) :
    Backed (past ++ [e]) (v.next e.1 e.2) where
  tries := by
    rw [next_tries, List.countP_append, h.tries, List.countP_singleton]
  few := by
    rw [next_tries]
    by_cases hpath : e.1.isPath
    · have hlt : v.tries < 100 := by
        obtain ⟨o, r⟩ := e
        cases o with
        | computeCartesianPath w => exact hallow.2.2
        | _ => cases hpath
      rw [if_pos hpath]
      omega
    · rw [if_neg hpath]
      exact h.few
  planned := by
    intro plan hplan
    rcases next_planned hplan with hbefore | hnow
    · obtain ⟨answer, hmem, hanswer⟩ := h.planned plan hbefore
      exact ⟨answer, List.mem_append_left _ hmem, hanswer⟩
    · exact ⟨e, List.mem_append_right _ List.mem_cons_self, hnow⟩
  executed := by
    intro plan hplan
    rcases next_executed hplan with hbefore | ⟨wait, done, hnow⟩
    · obtain ⟨answer, wait, done, hanswer, hsub⟩ := h.executed plan hbefore
      exact ⟨answer, wait, done, hanswer, hsub.trans (List.sublist_append_left _ _)⟩
    -- what is executed now was answered before
    · obtain rfl : e = ⟨.execute plan wait, .ok done⟩ := hnow
      obtain ⟨answer, hmem, hanswer⟩ := h.planned plan hallow.1
      refine ⟨answer, wait, done, hanswer, ?_⟩
      exact (List.singleton_sublist.mpr hmem).append (List.Sublist.refl _)
  published := by
    rw [next_published, List.countP_append, h.published, List.countP_singleton]
    by_cases hpublish : e.1.isPublish
    · have hfresh : v.published = false := by
        obtain ⟨o, r⟩ := e
        cases o with
        | publish msg => exact hallow.1
        | _ => cases hpublish
      simp [hpublish, hfresh]
    · simp [hpublish]

/-- The view that a script has after some events is backed by them. -/
theorem backed_of_along {es : List (Event demoSig)}
    (h : Along DemoView.next DemoView.Allows .fresh es) :
    Backed es (phaseAfter DemoView.next .fresh es) :=
  h.invariant backed_nil fun _ _ e hpast hallow => hpast.snoc e hallow

/-! ## What the driver receives -/

/-- What a script publishes, and the driver then sends, is a plan that was answered complete
and was executed before. -/
theorem demo_delivered (c sendInterval : ℚ) (file : ScriptFile) {es rest : List (Event demoSig)}
    {q : Script Unit} {msg : JointTrajectory} {r : Except PyException Unit}
    (htrace : (file.main c).Trace es q) (hpublish : es = past ++ ⟨.publish msg, r⟩ :: rest) :
    es.countP (·.1.isPath) ≤ 100 ∧ es.countP (·.1.isPublish) = 1 ∧
    ∃ plan answer wait done, Complete plan answer ∧
      [answer, (⟨.execute plan wait, .ok done⟩ : Event demoSig)].Sublist past ∧
      msg.jointNames = plan.jointNames ∧
      ∀ s s', stoppable.Steps (Machine.anyChoice _)
          (EntryPoint.topic.callback c sendInterval msg, s) (.ret (), s') →
        ∃ b fates, Execution c plan.points fates s b s' := by
  have halong := wp_trace (main_follows (c := c) file) htrace
  have hall := backed_of_along halong
  have hpast : Along DemoView.next DemoView.Allows .fresh past := by
    rw [hpublish] at halong
    exact halong.append_left
  rw [hpublish] at halong
  obtain ⟨⟨-, plan, hplan, hnames, hpoints⟩, -⟩ := halong.append_right
  obtain ⟨answer, wait, done, hanswer, hsub⟩ := (backed_of_along hpast).executed plan hplan
  refine ⟨hall.tries ▸ hall.few, ?_, plan, answer, wait, done, hanswer, hsub, hnames, ?_⟩
  · have hone : 0 < es.countP (·.1.isPublish) := by
      rw [hpublish]
      simp [DemoOp.isPublish]
    have hcount := hall.published
    split at hcount
    · exact hcount
    · omega
  · intro s s' hrun
    rw [← hpoints]
    exact callback_execution .topic hrun

/-! ## A run of one script -/

/-- Where the arm is when `moveit_demo.py` starts. -/
def demoPose : Pose := ⟨⟨1 / 2, 0, 2 / 5⟩, ⟨1, 0, 0, 0⟩⟩

/-- A path that ends where it starts, and the whole one. -/
def startOnly : Plan := ⟨0, jointNames, [⟨[0, 1 / 4, 1 / 2, 0, 1 / 4, 0], [], [], 1⟩]⟩

def wholePath : Plan :=
  ⟨0, jointNames, [⟨[0, 1 / 4, 1 / 2, 0, 1 / 4, 0], [], [], 1⟩,
    ⟨[1 / 10, 1 / 2, 3 / 4, 0, 1 / 2, 0], [], [], 2⟩]⟩

/-- What `moveit_demo.py` does before it publishes, when its first try for a path gets
no further than the start. -/
def demoPast : List (Event demoSig) :=
  [⟨.configure, .ok ()⟩, ⟨.getCurrentPose, .ok demoPose⟩, ⟨.rospySleep (1 / 2), .ok ()⟩,
    ⟨.setStartStateToCurrentState, .ok ()⟩,
    ⟨.computeCartesianPath (waypointsFrom demoPose (-1 / 5) (1 / 5) (1 / 5)),
      .ok (startOnly, 0)⟩,
    ⟨.computeCartesianPath (waypointsFrom demoPose (-1 / 5) (1 / 5) (1 / 5)),
      .ok (wholePath, 1)⟩,
    ⟨.execute wholePath true, .ok true⟩, ⟨.now, .ok 7⟩]

/-- What it publishes. -/
def demoMessage : JointTrajectory := ⟨7, wholePath.jointNames, wholePath.points⟩

def demoRun : List (Event demoSig) := demoPast ++ [⟨.publish demoMessage, .ok ()⟩]

/-- `demo_delivered` for this run. -/
theorem demo_delivered_secondTry :
    demoRun.countP (·.1.isPath) ≤ 100 ∧ demoRun.countP (·.1.isPublish) = 1 ∧
    ∃ plan answer wait done, Complete plan answer ∧
      [answer, (⟨.execute plan wait, .ok done⟩ : Event demoSig)].Sublist demoPast ∧
      demoMessage.jointNames = plan.jointNames ∧
      ∀ s s', stoppable.Steps (Machine.anyChoice _)
          (EntryPoint.topic.callback 57 (1 / 10) demoMessage, s) (.ret (), s') →
        ∃ b fates, Execution 57 plan.points fates s b s' := by
  have htrace : ∃ q, (ScriptFile.moveitDemo.main 57).Trace demoRun q :=
    ⟨_, .cons <| .cons <| .cons <| .cons <| .cons <| .cons <| .cons <| .cons <| .cons <| .nil _⟩
  obtain ⟨q, htrace⟩ := htrace
  exact demo_delivered 57 (1 / 10) .moveitDemo htrace rfl

end HakRobot.Demo
