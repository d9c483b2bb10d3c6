import HakRobot.Driver.Delivery
import HakRobot.Proc.Pool

/-!
# The threads of the driver node

`rospy` runs the callbacks of each publisher of a topic in a thread of its own,
and the action server runs its goals in one more; all of them share one
`HKTcpClient`. A thread takes its jobs one after another, and an exception ends
the job, not the thread. The history of a run says which thread wrote which
line, and `run_completeLines` connects it to what the client sent.
-/

namespace HakRobot.Driver

open HakRobot.Proc

/-- What a thread of the node does with the client. -/
inductive ClientJob
  | startUp
  | send (jointPositions : List ℚ)
  | command (text : List Char)
  | receive (bufferSize : Nat) (timeout : ℚ)
  | connect (timeout : ℚ)
  | disconnect
  | reconnect (maxAttempts : Nat)
  | trajectory (h : TrajectoryHandler) (msg : JointTrajectory)

/-- The method a job calls. -/
def ClientJob.method (c : ℚ) : ClientJob → Method Unit
  | .startUp => Driver.startUp
  | .send jointPositions => (sendJointPositions c jointPositions).discard
  | .command text => (sendCommand text).discard
  | .receive bufferSize timeout => (receiveResponse bufferSize timeout).discard
  | .connect timeout => (Driver.connect timeout).discard
  | .disconnect => Driver.disconnect
  | .reconnect maxAttempts => (Driver.reconnect maxAttempts).discard
  | .trajectory h msg => (executeTrajectory c h msg).discard

/-- The jobs of one thread, one after another. -/
def thread (c : ℚ) (jobs : List ClientJob) : Method Unit :=
  Prog.forEach (fun job => (job.method c).tryCatch fun _ => .ret ()) jobs

variable {ι : Type} [DecidableEq ι]

/-- Threads that share the client. -/
def clientPool (c : ℚ) (s : ClientState) (jobs : ι → List ClientJob) :
    Pool driverSig ClientState PyException Unit ι :=
  ⟨s, fun i => thread c (jobs i)⟩

/-! ## The lines that were written -/

/-- The line of a `sendall` that returned. -/
def writtenLine (o : DriverOp) (r : o.Res) : List (List Char) :=
  match o, r with
  | .lockedSendall raw, .ok true => [raw]
  | _, _ => []

/-- The lines of a thread whose `sendall` returned. -/
def linesOf (i : ι) (h : Pool.History driverSig ι) : List (List Char) :=
  (h.of i).flatMap fun e => writtenLine e.1 e.2

theorem completeLines_exec (o : DriverOp) (x : driver.Choice o) (s : ClientState) :
    completeLines (driver.exec o x s).2.sends =
      completeLines s.sends ++ writtenLine o (driver.exec o x s).1 := by
  cases o with
  | lockedSendall raw =>
      show completeLines (s.sendallLocked raw x).2.sends =
        completeLines s.sends ++ writtenLine (.lockedSendall raw) (s.sendallLocked raw x).1
      unfold ClientState.sendallLocked
      split
      · simp [completeLines, Send.Whole, writtenLine]
      · split
        · simp [completeLines, Send.Whole, writtenLine]
        · simp [completeLines, Send.Whole, writtenLine]
  | _ =>
      rw [exec_sends s x (by simp)]
      exact (List.append_nil _).symm

/-- The lines whose `sendall` returned are the lines of the history, in its order. -/
theorem run_completeLines {R : driver.Rely} {P P' : Pool driverSig ClientState PyException Unit ι}
    {h : Pool.History driverSig ι} (hrun : Pool.Run driver R P h P') :
    completeLines P'.shared.sends =
      completeLines P.shared.sends ++ h.flatMap fun e => writtenLine e.2.1 e.2.2 := by
  induction hrun with
  | nil => simp
  | snoc _ hstep ih =>
      cases hstep with
      | @op i o k hi x hx =>
          show completeLines (driver.exec o x _).2.sends = _
          rw [completeLines_exec, ih]
          simp

/-! ## Two threads of the node -/

/-- The start-up and then a trajectory, beside a goal. -/
def topicAndGoal : HandlerId → List ClientJob
  | .topic => [.startUp, .trajectory (topicHandler 0.05) threePoints]
  | .action => [.trajectory (actionHandler 0.05) threePoints]

/-- So many turns of a thread whose operations all succeed. -/
def succeeding (n : Nat) (id : HandlerId) :
    List (HandlerId × ((o : driverSig.Op) → driver.Choice o)) :=
  List.replicate n (id, DriverOp.success)

end HakRobot.Driver
