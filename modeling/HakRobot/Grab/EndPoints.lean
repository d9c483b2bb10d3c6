import HakRobot.Grab.Spec
import HakRobot.Grab.Walk

/-!
# What the grasp node publishes

`publish_to_hk_driver` sends the last point of the plan that has just been made.
Over a whole run: every published message belongs to a successful plan of its own,
and the messages come in the order of the plans.

* `main_publishes` — before every publication the last plan is a successful one
  that has not been published, and the message is its end point;
* `publications_sublist` — so a log holds the messages of some of its plans, in
  their order.
-/

namespace HakRobot.Grab

open HakRobot.Geometry HakRobot.Proc

/-! ## Reading a log -/

/-- The plan received last, if nothing has been published since. -/
def unpublished : List VisionEvent → Option PlanResult
  | [] => none
  | .planned result :: _ => some result
  | .published _ :: _ => none
  | _ :: past => unpublished past

/-- The plan that `msg` belongs to. -/
def PublishedFrom (msg : JointTrajectory) (past : List VisionEvent) : Prop :=
  ∃ result, unpublished past = some result ∧ result.success = true ∧ EndPointOf result msg

/-- The condition on a log. -/
def PublishOk : VisionEvent → List VisionEvent → Prop
  | .published msg, past => PublishedFrom msg past
  | _, _ => True

/-- The results of the planner, the oldest first. -/
def plansMade (log : List VisionEvent) : List PlanResult :=
  log.reverse.filterMap fun
    | .planned result => some result
    | _ => none

/-- The messages published, the oldest first. -/
def publications (log : List VisionEvent) : List JointTrajectory :=
  log.reverse.filterMap fun
    | .published msg => some msg
    | _ => none

/-- Where a plan ends, if it was found. -/
def PlanResult.endPoint (result : PlanResult) : Option JointTrajectoryPoint :=
  if result.success then result.plan.points.getLast? else none

theorem publications_cons (e : VisionEvent) (past : List VisionEvent) :
    publications (e :: past) = publications past ++
      match e with
      | .published msg => [msg]
      | _ => [] := by
  cases e <;> simp [publications]

theorem plansMade_cons (e : VisionEvent) (past : List VisionEvent) :
    plansMade (e :: past) = plansMade past ++
      match e with
      | .planned result => [result]
      | _ => [] := by
  cases e <;> simp [plansMade]

theorem PublishedFrom.points {msg : JointTrajectory} {result : PlanResult}
    (hok : result.success = true) (hmsg : EndPointOf result msg) :
    msg.points = result.endPoint.toList := by
  obtain ⟨last, hlast, hpoints⟩ := hmsg
  simp [PlanResult.endPoint, hok, hlast, hpoints]

/-- A plan that is still unpublished is the last one made, and no message is its. -/
theorem publications_before {log : List VisionEvent} (hlog : Always PublishOk log) :
    ((publications log).map (·.points)).Sublist
      ((plansMade log).map (·.endPoint.toList)) ∧
    ∀ result, unpublished log = some result → ∃ earlier, plansMade log = earlier ++ [result] ∧
      ((publications log).map (·.points)).Sublist (earlier.map (·.endPoint.toList)) := by
  induction log with
  | nil => exact ⟨.slnil, fun _ h => absurd h (by simp [unpublished])⟩
  | cons e past ih =>
      obtain ⟨hall, hlast⟩ := ih hlog.2
      rw [publications_cons, plansMade_cons]
      cases e with
      | planned result =>
          simp only [List.append_nil, List.map_append]
          refine ⟨hall.trans (List.sublist_append_left _ _), fun result' h => ?_⟩
          obtain rfl := Option.some.inj h
          exact ⟨plansMade past, rfl, hall⟩
      | published msg =>
          obtain ⟨result, hresult, hok, hmsg⟩ := hlog.1
          obtain ⟨earlier, hplans, hsub⟩ := hlast result hresult
          simp only [List.append_nil, List.map_append, List.map_cons, List.map_nil]
          refine ⟨?_, fun _ h => absurd h (by simp [unpublished])⟩
          rw [hplans, List.map_append, PublishedFrom.points hok hmsg]
          exact hsub.append (List.Sublist.refl _)
      | _ =>
          simp only [List.append_nil]
          exact ⟨hall, hlast⟩

/-- The messages are the end points of some of the plans, in their order. -/
theorem publications_sublist {log : List VisionEvent} (hlog : Always PublishOk log) :
    ((publications log).map (·.points)).Sublist
      ((plansMade log).map (·.endPoint.toList)) :=
  (publications_before hlog).1

/-! ## The condition on the node -/

/-- The next operation keeps the condition. -/
def PublishNext (s : VisionState) : VisionOp → Prop
  | .publish msg => PublishedFrom msg s.log
  | .mark e => ¬ e.Planning
  | _ => True

theorem always_publishOk_exec {o : VisionOp} {s : VisionState} (hs : Always PublishOk s.log)
    (ho : PublishNext s o) (x : vision.Choice o) : Always PublishOk (vision.exec o x s).2.log := by
  rcases log_exec_cases o x s with hsame | ⟨e, hlogs, hlog⟩
  · rw [hsame]
    exact hs
  · rw [hlog]
    refine ⟨?_, hs⟩
    cases hlogs with
    | trigger _ _ _ => exact trivial
    | planned _ => exact trivial
    | published msg => exact ho
    | marked =>
        cases e with
        | published msg => exact absurd trivial ho
        | _ => exact trivial

/-! ## The functions of the node -/

variable {α : Type}

/-- From every state, `p` publishes end points of fresh plans only. -/
abbrev Publishes (p : Routine α) (s : VisionState) : Prop :=
  vision.wp vision.anyChoice PublishNext p (fun _ _ => True) (fun _ _ => True) s

/-- An operation that publishes nothing and marks no plan. -/
def PublishesNothing : VisionOp → Prop
  | .publish _ => False
  | .mark e => ¬ e.Planning
  | _ => True

theorem Publishes.of_uses {p : Routine α} (hp : p.Uses PublishesNothing) (s : VisionState) :
    Publishes p s := by
  refine Machine.wp_of_uses (I := fun _ => True) ?_ hp trivial
  intro s o _ ho
  refine ⟨?_, fun _ _ => trivial⟩
  cases o with
  | publish _ => exact ho.elim
  | mark e => exact ho
  | _ => exact trivial

theorem publishToHkDriver_publishes {result : PlanResult} (hok : result.success = true)
    {s : VisionState} (hs : unpublished s.log = some result) :
    Publishes (publishToHkDriver result.plan) s := by
  unfold publishToHkDriver
  split
  · exact trivial
  · dsimp only
    split
    · exact trivial
    · rename_i hne
      refine ⟨trivial, fun (stamp : Option ℚ) _ => ?_⟩
      cases stamp with
      | none => exact trivial
      | some stamp =>
          refine ⟨trivial, fun (executed : Option Unit) _ => ?_⟩
          cases executed with
          | none => exact trivial
          | some _ =>
              refine ⟨⟨result, hs, hok, ?_⟩, fun _ _ => Publishes.of_uses ?_ _⟩
              · cases hlast : result.plan.points.getLast? with
                | none => simp [downsampleTrajectoryPoints, hlast] at hne
                | some last => exact ⟨last, hlast, by simp [downsampleTrajectoryPoints, hlast]⟩
              · refine Prog.uses_bind (Prog.uses_ofExcept _) fun _ => ?_
                exact Prog.uses_bind ⟨trivial, fun r => Prog.uses_ofExcept r⟩ fun _ => trivial

theorem usePlan_publishesEnd {result : PlanResult} {s : VisionState}
    (hs : unpublished s.log = some result) :
    Publishes (if result.success then publishToHkDriver result.plan else return false) s := by
  split
  · rename_i hok
    exact publishToHkDriver_publishes hok hs
  · exact trivial

theorem BetweenMotions.publishesNothing {o : VisionOp} (ho : BetweenMotions o) :
    PublishesNothing o := by
  cases o with
  | publish _ => exact ho.elim
  | mark e =>
      cases e with
      | planned _ => exact ho.elim
      | published _ => exact ho.elim
      | _ => exact fun h => h
  | _ => exact trivial

theorem gripperCall_publishesNothing {o : VisionOp} (ho : o.GripperCall) :
    PublishesNothing o := by
  cases o with
  | publish _ => exact ho.elim
  | mark e =>
      cases e with
      | gripperOpenCalled => exact fun h => h
      | graspCalled => exact fun h => h
      | _ => exact ho.elim
  | _ => exact trivial

/-- Every function of the node publishes end points of fresh plans only. -/
theorem publishes_compositional :
    Compositional BetweenMotions fun _ p => ∀ s, Publishes p s where
  bind hp hf s := Machine.wp_seq (hp s) (fun a s' _ => hf a s') fun _ _ _ => trivial
  tryCatch hp hh s := Machine.wp_catch (hp s) fun e s' _ => hh e s'
  of_uses hp := Publishes.of_uses (hp.mono fun _ ho => ho.publishesNothing)
  gripperInit := Publishes.of_uses
    (gripperInit_calls.mono fun _ ho => gripperCall_publishesNothing ho)
  gripperOpen := Publishes.of_uses
    (gripperOpen_calls.mono fun _ ho => gripperCall_publishesNothing ho)
  gripperGraspGentle := Publishes.of_uses
    (gripperGraspGentle_calls.mono fun _ ho => gripperCall_publishesNothing ho)
  planToPose x y z _ s := by
    have hbind : ∀ {α β : Type} {p : Routine α} {f : α → Routine β} {s : VisionState},
        p.Uses PublishesNothing → (∀ a s', Publishes (f a) s') → Publishes (p.bind f) s :=
      fun hp hf =>
        Machine.wp_seq (Publishes.of_uses hp _) (fun a s' _ => hf a s') fun _ _ _ => trivial
    have hpose : getCurrentPose.Uses PublishesNothing := ⟨trivial, fun r => Prog.uses_ofExcept r⟩
    refine hbind (p := tcpToFlange x y z) (Prog.uses_bind hpose fun _ => trivial) ?_
    intro flange s₁
    refine hbind hpose fun currentPose s₂ => ?_
    refine hbind (p := setStartStateToCurrentState)
      ⟨trivial, fun r => Prog.uses_ofExcept r⟩ fun _ s₃ => ?_
    refine hbind (p := setPoseTarget _) ⟨trivial, fun r => Prog.uses_ofExcept r⟩ fun _ s₄ => ?_
    -- the plan is still unpublished when `clear_pose_targets` returns
    refine ⟨trivial, fun (planned : Option PlanResult) _ => ?_⟩
    cases planned with
    | none => exact trivial
    | some result =>
        refine ⟨trivial, fun (cleared : Option Unit) _ => ?_⟩
        cases cleared with
        | none => exact trivial
        | some _ => exact usePlan_publishesEnd rfl
  planToJointValues jointValues s := by
    refine ⟨trivial, fun (started : Option Unit) _ => ?_⟩
    cases started with
    | none => exact trivial
    | some _ =>
        refine ⟨trivial, fun (target : Option Unit) _ => ?_⟩
        cases target with
        | none => exact trivial
        | some _ =>
            refine ⟨trivial, fun (planned : Option PlanResult) _ => ?_⟩
            cases planned with
            | none => exact trivial
            | some result => exact usePlan_publishesEnd rfl

/-- **Publications.** In every run of the start-up and any number of callbacks,
whatever fails. -/
theorem main_publishes (detections : List ObjectInfo) (s : VisionState) :
    Publishes (main detections) s :=
  publishes_compositional.main detections s

end HakRobot.Grab
