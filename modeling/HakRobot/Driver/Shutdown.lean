import HakRobot.Driver.StopRequest
import Mathlib.Algebra.BigOperators.Group.Finset.Basic
import Mathlib.Algebra.Order.BigOperators.Group.Finset
import Mathlib.Data.Fintype.BigOperators

/-!
# Shutting the node down

`HKDriverNode.shutdown` only disconnects the client: it does not wait for the
executions that are under way, and one of them can still reconnect. What ends them
is the test of `rospy.is_shutdown()` in every round.

* `thread_licensed` — whatever a thread of the node does, it sends a line only after
  a test that found ROS running, and one line for each test;
* `shutdown_honoured` — after the shutdown each thread completes one line at most,
  the wire gains at most one for each thread, and none from a thread that starts.
-/

namespace HakRobot.Driver

open HakRobot.Proc

variable {c : ℚ} {α : Type}

/-! ## A test for every line -/

/-- Whether the last test of `rospy.is_shutdown()` found ROS running and its line is
not written yet. -/
def licence (granted : Bool) (o : DriverOp) (r : o.Res) : Bool :=
  match o, r with
  | .isShutdown, now => !now
  | .lockedSendall _, .ok true => false
  | _, _ => granted

/-- A line is sent only with a licence. -/
def Licensed (granted : Bool) : DriverOp → Prop
  | .lockedSendall _ => granted = true
  | _ => True

/-- `p` sends only with a licence. -/
abbrev SendsLicensed (p : Method α) (Q : α → Bool → Prop) (s : Bool) : Prop :=
  (Machine.monitor driverSig licence).wp (Machine.anyChoice _) Licensed p Q (fun _ _ => True) s

/-- An operation that neither sends nor tests. -/
def KeepsLicence : DriverOp → Prop
  | .lockedSendall _ | .isShutdown => False
  | _ => True

variable {s : Bool}

theorem keepsLicence_licensed {p : Method α} (hp : p.Uses KeepsLicence) :
    SendsLicensed p (fun _ s' => s' = s) s := by
  refine Machine.wp_mono (fun _ _ h => h) (fun _ _ _ => trivial)
    (Machine.wp_of_uses (I := (· = s)) ?_ hp rfl)
  rintro s' o rfl ho
  refine ⟨?_, fun (r : o.Res) _ => ?_⟩
  · cases o <;> first | exact trivial | exact ho.elim
  · show licence s' o r = s'
    cases o <;> first | rfl | exact ho.elim

theorem connectOp_keepsLicence {o : DriverOp} (ho : ConnectOp o) : KeepsLicence o := by
  cases o <;> first | exact trivial | exact ho.elim

theorem interrupted_licensed (h : TrajectoryHandler) :
    SendsLicensed (interrupted h) (fun stop s' => stop = false → s' = true) s := by
  refine ⟨trivial, fun (now : Bool) _ => ?_⟩
  cases now with
  | true => exact fun hstop => absurd hstop.symm Bool.false_ne_true
  | false => exact ⟨trivial, fun _ _ _ => rfl⟩

theorem send_licensed (jointPositions : List ℚ) :
    SendsLicensed (sendJointPositions c jointPositions) (fun b s' => b = false → s' = true)
      true := by
  refine sendJointPositions_enter (T := (· = true)) ?_ ?_ ?_
  · exact ⟨trivial, fun _ _ => ⟨fun _ _ => rfl, fun _ => rfl⟩⟩
  · rintro _ _ rfl _
    rfl
  · rintro _ _ rfl
    refine ⟨rfl, fun (r : Except PyException Bool) _ => ?_⟩
    cases r with
    | error e => exact trivial
    | ok b =>
        cases b with
        | true => exact fun hb => absurd hb.symm Bool.false_ne_true
        | false => exact fun _ => rfl

theorem pauseAfter_keepsLicence (h : TrajectoryHandler) (i total : Nat) :
    (pauseAfter h i total).Uses KeepsLicence := by
  unfold pauseAfter
  split
  · exact ⟨trivial, fun r => Prog.uses_ofExcept r⟩
  · exact trivial

/-- **Loop.** Every round begins with a test, and writes one line at most. -/
theorem sendPoints_licensed (h : TrajectoryHandler) (total i : Nat)
    (points : List JointTrajectoryPoint) :
    SendsLicensed (sendPoints c h total i points) (fun _ _ => True) s := by
  induction points generalizing i s with
  | nil => exact ⟨trivial, fun _ _ => trivial⟩
  | cons point rest ih =>
      let Granted (s' : Bool) : Prop := s' = true
      let Any (_ : Bool) : Prop := True
      refine sendPoints_round (T := Granted) (F := Granted) (A := Granted) (W := Any) (L := Any)
        (X := Any) ?_ (fun _ _ _ => ih (i + 1)) ?_ ?_ ?_ ?_ (fun _ _ _ => ih (i + 1)) ?_
      · refine Machine.wp_mono ?_ (fun _ _ he => he) (interrupted_licensed h)
        exact fun _ _ hgranted => ⟨fun _ => trivial, hgranted⟩
      · rintro _ _ rfl
        refine Machine.wp_mono ?_ (fun _ _ he => he) (send_licensed point.positions)
        exact fun _ _ hgranted => ⟨fun _ => trivial, hgranted⟩
      · rintro _ t rfl
        have huses := (reconnect_uses 3).mono fun _ ho => connectOp_keepsLicence ho
        refine Machine.wp_mono ?_ (fun _ _ he => he) (keepsLicence_licensed huses)
        exact fun _ _ hsame => ⟨fun _ => hsame, fun _ => trivial⟩
      · rintro _ _ rfl
        refine Machine.wp_mono ?_ (fun _ _ he => he) (send_licensed point.positions)
        exact fun _ _ _ => ⟨fun _ => trivial, fun _ => trivial⟩
      · intro _ t _
        refine Machine.wp_seq (keepsLicence_licensed (pauseAfter_keepsLicence h i total)) ?_
          fun _ _ he => he
        exact fun _ _ _ => ih (i + 1)
      · exact fun _ _ => ⟨trivial, fun _ _ => trivial⟩

theorem executeTrajectory_licensed (h : TrajectoryHandler) (trajectory : JointTrajectory) :
    SendsLicensed (executeTrajectory c h trajectory) (fun _ _ => True) s := by
  refine executeTrajectory_enter (T := fun _ => True) ?_ (fun _ _ _ => trivial) ?_
  · exact ⟨trivial, fun _ _ => ⟨fun _ => trivial, fun _ => trivial⟩⟩
  · exact fun _ _ _ => ⟨trivial, fun _ _ => sendPoints_licensed h _ 0 _⟩

/-- A job of `HKDriverNode`: the connection in `__init__`, a message or a goal, or the
`disconnect` of `shutdown`. -/
def ClientJob.OfNode : ClientJob → Prop
  | .startUp | .trajectory _ _ | .disconnect => True
  | _ => False

theorem startUp_keepsLicence : startUp.Uses KeepsLicence := by
  refine Prog.uses_bind ((connect_uses 5).mono fun _ ho => connectOp_keepsLicence ho) fun b => ?_
  cases b with
  | true => exact trivial
  | false =>
      refine Prog.uses_bind ((reconnect_uses 5).mono fun _ ho => connectOp_keepsLicence ho)
        fun b => ?_
      cases b with
      | true => exact trivial
      | false => exact trivial

theorem job_licensed {job : ClientJob} (hjob : job.OfNode) :
    SendsLicensed (job.method c) (fun _ _ => True) s := by
  cases job with
  | startUp =>
      exact Machine.wp_mono (fun _ _ _ => trivial) (fun _ _ he => he)
        (keepsLicence_licensed startUp_keepsLicence)
  | trajectory h msg =>
      exact Machine.wp_seq (executeTrajectory_licensed h msg) (fun _ _ _ => trivial)
        fun _ _ he => he
  | disconnect => exact ⟨trivial, fun _ _ => trivial⟩
  | _ => exact hjob.elim

/-- Everything a thread of the node does. -/
theorem thread_licensed {jobs : List ClientJob} (hjobs : ∀ job ∈ jobs, job.OfNode) :
    SendsLicensed (thread c jobs) (fun _ _ => True) s := by
  induction jobs generalizing s with
  | nil => exact trivial
  | cons job jobs ih =>
      have hjob := job_licensed (c := c) (s := s) (hjobs job List.mem_cons_self)
      refine Machine.wp_seq (P := fun _ _ => True) ?_ (fun _ _ _ => ?_) fun _ _ he => he
      · exact Machine.wp_catch (F := fun _ _ => True) hjob fun _ _ _ => trivial
      · exact ih fun job' hjob' => hjobs job' (List.mem_cons_of_mem job hjob')

/-! ## After the shutdown -/

/-- A test finds ROS shut down. -/
def FindsDown : Event driverSig → Prop
  | ⟨.isShutdown, now⟩ => now = true
  | _ => True

instance : DecidablePred FindsDown
  | ⟨.isShutdown, now⟩ => inferInstanceAs (Decidable ((now : Bool) = true))
  | ⟨.readConnected, _⟩ | ⟨.writeConnected _, _⟩ | ⟨.newSocket, _⟩ | ⟨.setsockopt, _⟩
  | ⟨.settimeout _, _⟩ | ⟨.socketConnect, _⟩ | ⟨.lockedSendall _, _⟩ | ⟨.lockedRecv _ _, _⟩
  | ⟨.lockedDisconnect, _⟩ | ⟨.sleep _, _⟩ | ⟨.rospySleep _, _⟩ | ⟨.readExecuting _, _⟩
  | ⟨.writeExecuting _ _, _⟩ => inferInstanceAs (Decidable True)

/-- With no licence granted any more, the last one covers one line. -/
theorem linesIn_findsDown {es : List (Event driverSig)} (h : Along licence Licensed s es)
    (hdown : ∀ e ∈ es, FindsDown e) : (linesIn es).length ≤ s.toNat := by
  induction es generalizing s with
  | nil => simp [linesIn]
  | cons e es ih =>
      obtain ⟨o, r⟩ := e
      obtain ⟨hallow, hrest⟩ := h
      have hlines := ih hrest fun e he => hdown e (List.mem_cons_of_mem _ he)
      rw [linesIn_cons, List.length_append]
      cases o with
      | isShutdown =>
          -- no line can follow
          obtain rfl : r = true := hdown _ List.mem_cons_self
          have hnone : (linesIn es).length ≤ 0 := hlines
          simp only [writtenLine, List.length_nil]
          omega
      | lockedSendall raw =>
          obtain rfl : s = true := hallow
          cases (r : Except PyException Bool) with
          | ok b =>
              cases b with
              | true =>
                  have hnone : (linesIn es).length ≤ 0 := hlines
                  simp only [writtenLine, List.length_singleton, Bool.toNat_true]
                  omega
              | false => simpa [writtenLine, licence] using hlines
          | error e => simpa [writtenLine, licence] using hlines
      | _ => simpa [writtenLine, licence] using hlines

variable {ι : Type} [DecidableEq ι]

/-- Every line of a history was written by one of the threads. -/
theorem length_lines [Fintype ι] (h : Pool.History driverSig ι) :
    (h.flatMap fun e => writtenLine e.2.1 e.2.2).length = ∑ i, (linesOf i h).length := by
  induction h with
  | nil => simp [linesOf, Pool.History.of]
  | cons e h ih =>
      obtain ⟨j, e⟩ := e
      have hof : ∀ i, (linesOf i ((j, e) :: h)).length =
          (if i = j then (writtenLine e.1 e.2).length else 0) + (linesOf i h).length := by
        intro i
        by_cases hij : j = i
        · subst hij
          rw [linesOf, Pool.History.of_cons_self, List.flatMap_cons, List.length_append, if_pos rfl]
          rfl
        · rw [linesOf, Pool.History.of_cons_ne hij, if_neg (Ne.symm hij), Nat.zero_add]
          rfl
      rw [List.flatMap_cons, List.length_append, ih]
      simp only [hof, Finset.sum_add_distrib, Finset.sum_ite_eq', Finset.mem_univ, if_true]

/-- **Shutdown.** In every interleaving of any threads of the node: once the tests of
`rospy.is_shutdown()` find ROS shut down, each thread completes one line at most,
whatever connection `shutdown` closed or an execution opened again, so the wire gains
no more lines than there are threads. A thread that has done nothing yet writes none. -/
theorem shutdown_honoured [Fintype ι] {client : ClientState} {jobs : ι → List ClientJob}
    (hjobs : ∀ i, ∀ job ∈ jobs i, job.OfNode)
    {P P' : Pool driverSig ClientState PyException Unit ι}
    {before after : Pool.History driverSig ι}
    (hbefore : Pool.Run driver driver.anyChoice (clientPool c client jobs) before P)
    (hafter : Pool.Run driver driver.anyChoice P after P')
    (hdown : ∀ e ∈ after, FindsDown e.2) :
    (∀ i, (linesOf i after).length ≤ 1 ∧ (before.of i = [] → linesOf i after = [])) ∧
      ∃ w, completeLines P'.shared.sends = completeLines P.shared.sends ++ w ∧
        w.length ≤ Fintype.card ι := by
  have hthread : ∀ i, Along licence Licensed (phaseAfter licence false (before.of i))
      (after.of i) := by
    intro i
    have halong := wp_trace (thread_licensed (s := false) (hjobs i))
      ((hbefore.append hafter).trace i)
    rw [Pool.History.of_append] at halong
    exact halong.append_right
  have hof : ∀ i, ∀ e ∈ after.of i, FindsDown e := by
    intro i e he
    obtain ⟨t, ht, hte⟩ := List.mem_filterMap.mp he
    split at hte
    · obtain rfl := Option.some.inj hte
      exact hdown t ht
    · cases hte
  have hone : ∀ i, (linesOf i after).length ≤ 1 := by
    intro i
    have hlines := linesIn_findsDown (hthread i) (hof i)
    have hlicence := Bool.toNat_le (phaseAfter licence false (before.of i))
    exact hlines.trans hlicence
  refine ⟨fun i => ⟨hone i, fun hnothing => ?_⟩, _, run_completeLines hafter, ?_⟩
  · have hlines := linesIn_findsDown (hthread i) (hof i)
    rw [hnothing] at hlines
    exact List.eq_nil_of_length_eq_zero (Nat.le_zero.mp hlines)
  · rw [length_lines]
    calc ∑ i, (linesOf i after).length ≤ ∑ _i : ι, 1 := Finset.sum_le_sum fun i _ => hone i
      _ = Fintype.card ι := by simp

/-! ## A shutdown during a send -/

/-- Every operation succeeds, and ROS is shut down. -/
def DriverOp.down : (o : DriverOp) → o.Choice
  | .isShutdown => true
  | o => o.success

/-- One thread executes two points, the other one is that of `HKDriverNode.shutdown`. -/
def hookJobs (i : Bool) : List ClientJob :=
  if i then [.trajectory (topicHandler 0.05) twoPointTrajectory] else [.disconnect]

/-- The execution up to its first send. -/
def beforeDown : Pool.History driverSig Bool × Pool driverSig ClientState PyException Unit Bool :=
  Pool.schedule driver (List.replicate 5 (true, DriverOp.success)) (clientPool 57 started hookJobs)

/-- The send, the hook, and the rest of the execution. -/
def afterDown : Pool.History driverSig Bool × Pool driverSig ClientState PyException Unit Bool :=
  Pool.schedule driver ([(true, DriverOp.down), (false, DriverOp.down)] ++
    List.replicate 3 (true, DriverOp.down)) beforeDown.2

/-- `shutdown_honoured` there: the line under way is the one more. -/
theorem shutdown_honoured_sending :
    (∀ i, (linesOf i afterDown.1).length ≤ 1 ∧
        (beforeDown.1.of i = [] → linesOf i afterDown.1 = [])) ∧
      ∃ w, completeLines afterDown.2.shared.sends = completeLines beforeDown.2.shared.sends ++ w ∧
        w.length ≤ Fintype.card Bool := by
  have hjobs : ∀ i, ∀ job ∈ hookJobs i, job.OfNode := by
    intro i job hjob
    cases i with
    | true =>
        obtain rfl := List.mem_singleton.mp hjob
        exact trivial
    | false =>
        obtain rfl := List.mem_singleton.mp hjob
        exact trivial
  exact shutdown_honoured hjobs (Pool.schedule_run _) (Pool.schedule_run _) (by decide +kernel)

end HakRobot.Driver
