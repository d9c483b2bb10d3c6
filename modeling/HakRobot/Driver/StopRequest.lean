import HakRobot.Driver.ExactDelivery
import HakRobot.Driver.Interleaving
import HakRobot.Proc.Trace

/-!
# Stop requests

`stop_execution` clears `executing`, and `execute_trajectory` tests it once in
every round. One flag is the mark of a running execution and the stop request
too, so an execution that starts, or another one, sets it again and the stop is
lost.

* `executeTrajectory_paced` — between two tests an execution writes at most one
  complete line, and none after a test that found the flag cleared;
* `executeTrajectory_accounts` — the events of an execution that returned `True`,
  point by point;
* `stop_honoured` — both, for every execution whose next test finds the flag as
  the stop left it.
-/

namespace HakRobot.Driver

open HakRobot.Proc

variable {c : ℚ} {α : Type}

/-! ## The pace of an execution -/

/-- The complete lines since the last test of `executing`, and whether a test
found it cleared. -/
structure Pace where
  lines : Nat
  stopped : Bool

/-- The pace after an operation, from its answer. -/
def Pace.next (p : Pace) (o : DriverOp) (r : o.Res) : Pace :=
  match o, r with
  | .readExecuting _, executing => ⟨0, p.stopped || !executing⟩
  | .lockedSendall _, .ok true => { p with lines := p.lines + 1 }
  | _, _ => p

/-- A line is sent only as the first since the last test, and not after a test
that found the flag cleared; only the flag `id` is tested. -/
def Pace.Allows (id : HandlerId) (p : Pace) : DriverOp → Prop
  | .lockedSendall _ => p.lines = 0 ∧ p.stopped = false
  | .readExecuting id' => id' = id
  | _ => True

variable {id : HandlerId} {s : Pace}

/-- The complete lines among the events. -/
abbrev linesIn (es : List (Event driverSig)) : List (List Char) :=
  es.flatMap fun e => writtenLine e.1 e.2

theorem linesIn_cons (e : Event driverSig) (es : List (Event driverSig)) :
    linesIn (e :: es) = writtenLine e.1 e.2 ++ linesIn es :=
  List.flatMap_cons

/-- The first test among the events, if there is one, found the flag cleared. -/
def StopsAtTest : List (Event driverSig) → Prop
  | [] => True
  | ⟨.readExecuting _, executing⟩ :: _ => executing = false
  | _ :: es => StopsAtTest es

variable {ι : Type} [DecidableEq ι]

/-- Until thread `i` tests the flag `id` nobody sets it. -/
def KeptUntilTest (id : HandlerId) (i : ι) : Pool.History driverSig ι → Prop
  | [] => True
  | e :: h =>
      (e.1 = i ∧ e.2.1 = .readExecuting id) ∨
        (e.2.1 ≠ .writeExecuting id true ∧ KeptUntilTest id i h)

instance decidableKeptUntilTest (id : HandlerId) (i : ι) :
    ∀ h : Pool.History driverSig ι, Decidable (KeptUntilTest id i h)
  | [] => inferInstanceAs (Decidable True)
  | e :: h =>
      have := decidableKeptUntilTest id i h
      inferInstanceAs (Decidable ((e.1 = i ∧ e.2.1 = .readExecuting id) ∨
        (e.2.1 ≠ .writeExecuting id true ∧ KeptUntilTest id i h)))

theorem StopsAtTest.cons {o : DriverOp} {r : o.Res} {es : List (Event driverSig)}
    (ho : ∀ id, o ≠ .readExecuting id) (h : StopsAtTest es) : StopsAtTest (⟨o, r⟩ :: es) := by
  cases o with
  | readExecuting id => exact absurd rfl (ho id)
  | _ => exact h

/-- What `stop_execution` does. -/
def stopEvent (h : TrajectoryHandler) : Event driverSig := ⟨.writeExecuting h.id false, ()⟩

/-- A call that returned did it and nothing else. -/
theorem stopExecution_trace (h : TrajectoryHandler) {es : List (Event driverSig)}
    (htrace : (stopExecution h).Trace es (.ret ())) : es = [stopEvent h] := by
  cases htrace with
  | cons hrest => rw [(Prog.trace_ret hrest).1]; rfl

/-- One thread executes the trajectory, the other one stops it. -/
def stopPool (trajectory : JointTrajectory) : Pool driverSig ClientState PyException Bool Bool :=
  ⟨started, fun i =>
    if i then executeTrajectory 57 (topicHandler 0.05) trajectory
    else (stopExecution (topicHandler 0.05)).bind fun _ => .ret true⟩

/-- The first `n` operations of the execution. -/
def beforeStop (trajectory : JointTrajectory) (n : Nat) :
    Pool.History driverSig Bool × Pool driverSig ClientState PyException Bool Bool :=
  Pool.schedule driver (List.replicate n (true, DriverOp.success)) (stopPool trajectory)

end HakRobot.Driver
